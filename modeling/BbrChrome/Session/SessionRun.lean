import BbrChrome.Session.Session

/-!
# Runs of a session

All that the network carries are packets of the client, so the client of a session makes a run of
its own in which every echo names a packet that it sent.
-/

namespace BbrChrome

open ByteString

def packetNumberOf (datagram : List UInt8) : Nat := digitsValue (field datagram 0)

theorem packetNumberOf_serialize (p : WirePacket) :
    packetNumberOf p.serialize = p.packetNumber.toNat % 10 ^ 10 := by
  rw [packetNumberOf, p.field_serialize.1, digitsValue_sizeTToString]

namespace Client

variable {c c' : Client} {first second : TimeOfDay}

/-- The client takes a packet off its socket as the echo of the number in it. -/
theorem receiveDatagram_serialize (p : WirePacket) :
    c.receiveDatagram (some p.serialize) first second =
      (c.receivePacket (some (packetNumberOf p.serialize)) first second).mapError .fault := by
  have hparse := p.unSerialize_serialize
  have hnumber : p.lastDigits.packetNumber.toNat = packetNumberOf p.serialize := by
    rw [packetNumberOf_serialize]
    exact UInt64.toNat_ofNat_of_lt' (lt_trans (Nat.mod_lt _ (by decide)) (by decide))
  have hcons : ∃ byte bytes, p.serialize = byte :: bytes := ⟨_, _, rfl⟩
  obtain ⟨byte, bytes, hcons⟩ := hcons
  rw [hcons] at hparse hnumber ⊢
  simp only [receiveDatagram, onDatagramReceived, hparse, receivePacket, hnumber]
  cases c.onPacketReceived (packetNumberOf (byte :: bytes)) first second <;> rfl

theorem isTimeToSendNextPacket_spec {gate schedule : TimeOfDay} {isTime : Bool}
    (h : c.isTimeToSendNextPacket gate schedule = .ok (c', isTime)) :
    c'.connection = c.connection := by
  unfold isTimeToSendNextPacket at h
  split at h
  · cases hnext : c.setNextSendTime schedule with
    | error e => simp [hnext, bind, Except.bind] at h
    | ok scheduled =>
        simp only [hnext, bind, Except.bind, pure, Except.pure] at h
        cases h
        exact (setNextSendTime_connection hnext).1
  · cases h
    rfl

end Client

namespace Session

open Channel

def underWay (s : Session) : List (List UInt8) := s.toClient ++ s.toServer

def numbers (s : Session) : List Nat := s.underWay.map packetNumberOf

def call? (s : Session) : SessionEvent → Option ClientCall
  | .sendPacket gate schedule send => some (.sendPacket gate schedule send)
  | .receivePacket arrival first second =>
      some (.receivePacket ((arrived s.toClient arrival).map packetNumberOf) first second)
  | _ => none

def calls (s : Session) (events : List SessionEvent) : List ClientCall :=
  PartialRun.emitted step (fun s event => (s.call? event).toList) s events

/-- The next packet number still fits the field of ten digits. -/
def NumbersFit (s : Session) (_ : SessionEvent) : Prop :=
  s.client.connection.recentPacketNumber + 1 < 10 ^ 10

instance (s : Session) (event : SessionEvent) : Decidable (s.NumbersFit event) :=
  inferInstanceAs (Decidable (_ < _))

/-- A datagram of the client with the number of a packet that it has sent. -/
def Posted (s : Session) (datagram : List UInt8) : Prop :=
  ∃ p : WirePacket, datagram = p.serialize ∧ packetNumberOf datagram = p.packetNumber.toNat ∧
    1 ≤ p.packetNumber.toNat ∧ p.packetNumber.toNat ≤ s.client.connection.recentPacketNumber

/-- The network carries packets of the client only. -/
def Genuine (s : Session) : Prop := ∀ datagram ∈ s.underWay, s.Posted datagram

/-- What a step does, by its event. -/
inductive Move (s : Session) : SessionEvent → Session → Prop
  | sent {gate schedule send : TimeOfDay} {c : Client}
      (hstep : Client.step s.client (.sendPacket gate schedule send) = .ok c)
      (hconnection : c.connection = s.client.connection.send defaultPacketLength send.now)
      {p : WirePacket}
      (hnumber : p.packetNumber = UInt64.ofNat (s.client.connection.recentPacketNumber + 1)) :
      Move s (.sendPacket gate schedule send)
        { s with client := c, toServer := s.toServer ++ [p.serialize] }
  | held {gate schedule send : TimeOfDay} {c : Client}
      (hstep : Client.step s.client (.sendPacket gate schedule send) = .ok c)
      (hconnection : c.connection = s.client.connection) :
      Move s (.sendPacket gate schedule send) { s with client := c }
  | echoReceived {arrival : Option Nat} {first second : TimeOfDay} {c : Client}
      {datagram : List UInt8} (harrived : arrived s.toClient arrival = some datagram)
      (hstep : Client.step s.client
        (.receivePacket (some (packetNumberOf datagram)) first second) = .ok c) :
      Move s (.receivePacket arrival first second)
        { s with client := c, toClient := remaining s.toClient arrival }
  | polled {arrival : Option Nat} {first second : TimeOfDay} {c : Client}
      (harrived : arrived s.toClient arrival = none)
      (hstep : Client.step s.client (.receivePacket none first second) = .ok c) :
      Move s (.receivePacket arrival first second) { s with client := c }
  | echoed {arrival : Option Nat} {check print : TimeOfDay} {datagram : List UInt8}
      (harrived : arrived s.toServer arrival = some datagram) (server : Server) :
      Move s (.receiveData arrival check print)
        { s with
          server
          toServer := remaining s.toServer arrival
          toClient := s.toClient ++ [datagram] }
  | idled {arrival : Option Nat} {check print : TimeOfDay}
      (harrived : arrived s.toServer arrival = none) (server : Server) :
      Move s (.receiveData arrival check print) { s with server }
  | dropped (link : Link) (i : Nat) :
      Move s (.drop link i) (s.onLink (remaining · (some i)) link)
  | duplicated (link : Link) (i : Nat) :
      Move s (.duplicate link i) (s.onLink (duplicate · i) link)

variable {s s' : Session} {event : SessionEvent}

theorem Genuine.of_mem_toClient (h : s.Genuine) {datagram : List UInt8}
    (hmem : datagram ∈ s.toClient) : s.Posted datagram := h _ (List.mem_append_left _ hmem)

theorem Genuine.of_mem_toServer (h : s.Genuine) {datagram : List UInt8}
    (hmem : datagram ∈ s.toServer) : s.Posted datagram := h _ (List.mem_append_right _ hmem)

theorem sendPacket_move {gate schedule send : TimeOfDay}
    (hs : s.sendPacket gate schedule send = .ok s') :
    s.Move (.sendPacket gate schedule send) s' := by
  unfold sendPacket at hs
  cases hgate : s.client.isTimeToSendNextPacket gate schedule with
  | error e => simp [hgate, bind, Except.bind] at hs
  | ok result =>
      obtain ⟨c, isTime⟩ := result
      have hconnection := Client.isTimeToSendNextPacket_spec hgate
      simp only [hgate, bind, Except.bind, pure, Except.pure] at hs
      cases isTime with
      | true =>
          simp only [if_true] at hs
          cases hs
          refine .sent ?_ ?_ ?_
          · simp [Client.step, Client.sendPacket, hgate, bind, Except.bind, pure, Except.pure]
          · rw [← hconnection]
            rfl
          · rw [← hconnection]
            rfl
      | false =>
          simp only [Bool.false_eq_true, if_false] at hs
          cases hs
          refine .held ?_ hconnection
          simp [Client.step, Client.sendPacket, hgate, bind, Except.bind, pure, Except.pure]

theorem receivePacket_eq (h : s.Genuine) (arrival : Option Nat) (first second : TimeOfDay) :
    s.client.receiveDatagram (arrived s.toClient arrival) first second =
      (s.client.receivePacket ((arrived s.toClient arrival).map packetNumberOf) first
        second).mapError .fault := by
  cases harrived : arrived s.toClient arrival with
  | none => rfl
  | some datagram =>
      obtain ⟨p, rfl, _⟩ := h.of_mem_toClient (mem_of_arrived harrived)
      exact Client.receiveDatagram_serialize p

theorem serverEcho_posted {datagram : List UInt8} (h : s.Posted datagram) :
    serverEcho datagram = .ok datagram := by
  obtain ⟨p, rfl, _⟩ := h
  exact p.readCString_serialize

theorem step_move (h : s.Genuine) (hs : s.step event = .ok s') : s.Move event s' := by
  cases event with
  | sendPacket gate schedule send =>
      simp only [step] at hs
      cases hsend : s.sendPacket gate schedule send with
      | error e => simp [hsend, Except.mapError] at hs
      | ok next =>
          simp only [hsend, Except.mapError] at hs
          cases hs
          exact sendPacket_move hsend
  | receivePacket arrival first second =>
      simp only [step, receivePacket, receivePacket_eq h] at hs
      cases hreceive : s.client.receivePacket ((arrived s.toClient arrival).map packetNumberOf)
          first second with
      | error e => simp [hreceive, Except.mapError, bind, Except.bind] at hs
      | ok c =>
          simp only [hreceive, Except.mapError, bind, Except.bind, pure, Except.pure] at hs
          cases hs
          cases harrived : arrived s.toClient arrival with
          | none =>
              rw [harrived] at hreceive
              have hmove : s.Move (.receivePacket arrival first second) { s with client := c } :=
                .polled harrived hreceive
              rw [remaining_of_arrived_none harrived]
              exact hmove
          | some datagram =>
              rw [harrived] at hreceive
              exact .echoReceived harrived hreceive
  | receiveData arrival check print =>
      simp only [step, receiveData] at hs
      cases harrived : arrived s.toServer arrival with
      | none =>
          simp only [harrived, Server.receiveData, Except.mapError, bind, Except.bind, pure,
            Except.pure] at hs
          cases hs
          have hmove : s.Move (.receiveData arrival check print)
              { s with server := (s.server.printReceiveRate check print).1 } := .idled harrived _
          rw [remaining_of_arrived_none harrived]
          simpa using hmove
      | some datagram =>
          have hecho := serverEcho_posted (h.of_mem_toServer (mem_of_arrived harrived))
          simp only [harrived, Server.receiveData, hecho, Except.mapError, bind, Except.bind, pure,
            Except.pure] at hs
          cases hs
          exact .echoed harrived _
  | drop link i =>
      cases hs
      exact .dropped link i
  | duplicate link i =>
      cases hs
      exact .duplicated link i

/-- A step faults only where the client does. -/
theorem step_error (h : s.Genuine) {e : ReceiveError} (hs : s.step event = .error e) :
    ∃ call fault, s.call? event = some call ∧ e = .fault fault ∧
      Client.step s.client call = .error fault := by
  cases event with
  | sendPacket gate schedule send =>
      refine ⟨.sendPacket gate schedule send, ?_⟩
      simp only [step] at hs
      cases hsend : s.sendPacket gate schedule send with
      | ok next => simp [hsend, Except.mapError] at hs
      | error fault =>
          simp only [hsend, Except.mapError] at hs
          cases hs
          refine ⟨fault, rfl, rfl, ?_⟩
          unfold sendPacket at hsend
          cases hgate : s.client.isTimeToSendNextPacket gate schedule with
          | error fault' =>
              simp only [hgate, bind, Except.bind] at hsend
              cases hsend
              simp [Client.step, Client.sendPacket, hgate, bind, Except.bind]
          | ok result =>
              obtain ⟨c, isTime⟩ := result
              simp only [hgate, bind, Except.bind, pure, Except.pure] at hsend
              split at hsend <;> cases hsend
  | receivePacket arrival first second =>
      simp only [step, receivePacket, receivePacket_eq h] at hs
      cases hreceive : s.client.receivePacket ((arrived s.toClient arrival).map packetNumberOf)
          first second with
      | ok c => simp [hreceive, Except.mapError, bind, Except.bind, pure, Except.pure] at hs
      | error fault =>
          simp only [hreceive, Except.mapError, bind, Except.bind] at hs
          cases hs
          exact ⟨_, fault, rfl, rfl, hreceive⟩
  | receiveData arrival check print =>
      simp only [step, receiveData] at hs
      cases harrived : arrived s.toServer arrival with
      | none =>
          simp [harrived, Server.receiveData, Except.mapError, bind, Except.bind, pure,
            Except.pure] at hs
      | some datagram =>
          have hecho := serverEcho_posted (h.of_mem_toServer (mem_of_arrived harrived))
          simp [harrived, Server.receiveData, hecho, Except.mapError, bind, Except.bind, pure,
            Except.pure] at hs
  | drop link i => cases hs
  | duplicate link i => cases hs

/-! ## The network stays genuine -/

theorem Posted.mono {datagram : List UInt8} (h : s.Posted datagram)
    (hle : s.client.connection.recentPacketNumber ≤ s'.client.connection.recentPacketNumber) :
    s'.Posted datagram := by
  obtain ⟨p, hdatagram, hnumber, hpos, hrecent⟩ := h
  exact ⟨p, hdatagram, hnumber, hpos, hrecent.trans hle⟩

theorem Move.recentPacketNumber (hm : s.Move event s') :
    s'.client.connection.recentPacketNumber = s.client.connection.recentPacketNumber ∨
      s'.client.connection.recentPacketNumber = s.client.connection.recentPacketNumber + 1 := by
  cases hm with
  | sent hstep hconnection hnumber =>
      right
      rw [hconnection]
      rfl
  | held hstep hconnection => exact .inl (congrArg Connection.recentPacketNumber hconnection)
  | echoReceived harrived hstep => exact .inl (Client.receivePacket_recentPacketNumber hstep)
  | polled harrived hstep => exact .inl (Client.receivePacket_recentPacketNumber hstep)
  | echoed harrived server => exact .inl rfl
  | idled harrived server => exact .inl rfl
  | dropped link i => exact .inl (by cases link <;> rfl)
  | duplicated link i => exact .inl (by cases link <;> rfl)

theorem Move.recentPacketNumber_le (hm : s.Move event s') :
    s.client.connection.recentPacketNumber ≤ s'.client.connection.recentPacketNumber := by
  rcases hm.recentPacketNumber with hrecent | hrecent <;> omega

/-- What is under way after a step was so before, or it is the packet just sent. -/
theorem Move.mem_underWay (hm : s.Move event s') {datagram : List UInt8}
    (hmem : datagram ∈ s'.underWay) :
    datagram ∈ s.underWay ∨
      (∃ p : WirePacket, datagram = p.serialize ∧
        p.packetNumber = UInt64.ofNat (s.client.connection.recentPacketNumber + 1)) ∧
      s'.client.connection.recentPacketNumber =
        s.client.connection.recentPacketNumber + 1 := by
  simp only [underWay, List.mem_append] at hmem ⊢
  cases hm with
  | sent hstep hconnection hnumber =>
      rcases hmem with hmem | hmem
      · exact .inl (.inl hmem)
      · rcases List.mem_append.mp hmem with hmem | hmem
        · exact .inl (.inr hmem)
        · refine .inr ⟨⟨_, List.mem_singleton.mp hmem, hnumber⟩, ?_⟩
          rw [hconnection]
          rfl
  | held hstep hconnection => exact .inl hmem
  | echoReceived harrived hstep =>
      rcases hmem with hmem | hmem
      · exact .inl (.inl (mem_of_mem_remaining _ hmem))
      · exact .inl (.inr hmem)
  | polled harrived hstep => exact .inl hmem
  | echoed harrived server =>
      rcases hmem with hmem | hmem
      · rcases List.mem_append.mp hmem with hmem | hmem
        · exact .inl (.inl hmem)
        · rw [List.mem_singleton.mp hmem]
          exact .inl (.inr (mem_of_arrived harrived))
      · exact .inl (.inr (mem_of_mem_remaining _ hmem))
  | idled harrived server => exact .inl hmem
  | dropped link i =>
      cases link with
      | toServer =>
          rcases hmem with hmem | hmem
          · exact .inl (.inl hmem)
          · exact .inl (.inr (mem_of_mem_remaining (some i) hmem))
      | toClient =>
          rcases hmem with hmem | hmem
          · exact .inl (.inl (mem_of_mem_remaining (some i) hmem))
          · exact .inl (.inr hmem)
  | duplicated link i =>
      cases link with
      | toServer =>
          rcases hmem with hmem | hmem
          · exact .inl (.inl hmem)
          · exact .inl (.inr (mem_of_mem_duplicate hmem))
      | toClient =>
          rcases hmem with hmem | hmem
          · exact .inl (.inl (mem_of_mem_duplicate hmem))
          · exact .inl (.inr hmem)

theorem Move.genuine (h : s.Genuine) (hfit : s.NumbersFit event) (hm : s.Move event s') :
    s'.Genuine := by
  intro datagram hmem
  rcases hm.mem_underWay hmem with hmem | ⟨⟨p, rfl, hnumber⟩, hrecent⟩
  · exact (h datagram hmem).mono hm.recentPacketNumber_le
  · have hvalue : p.packetNumber.toNat = s.client.connection.recentPacketNumber + 1 := by
      rw [hnumber]
      exact UInt64.toNat_ofNat_of_lt' (lt_trans hfit (by decide))
    refine ⟨p, rfl, ?_, by omega, by omega⟩
    rw [packetNumberOf_serialize, hvalue]
    exact Nat.mod_eq_of_lt hfit

theorem create_genuine (clientNow serverNow : TimeOfDay) (stream : Nat → Nat) :
    (create clientNow serverNow stream).Genuine := by
  intro datagram hmem
  cases hmem

theorem step_genuine (h : s.Genuine) (hfit : s.NumbersFit event) (hs : s.step event = .ok s') :
    s'.Genuine :=
  (step_move h hs).genuine h hfit

/-! ## The client of a session -/

/-- A step makes at most one call of the client, which names a packet that was sent. -/
theorem Move.call (h : s.Genuine) (hm : s.Move event s') :
    Client.exec s.client (s.call? event).toList = .ok s'.client ∧
      Client.Along Client.Valid s.client (s.call? event).toList := by
  have hvalid : ∀ {call : ClientCall}, s.client.Valid call →
      Client.Along Client.Valid s.client [call] := fun hcall => ⟨hcall, fun _ _ => trivial⟩
  have hone : ∀ {call : ClientCall} {c : Client}, Client.step s.client call = .ok c →
      Client.exec s.client [call] = .ok c := fun hcall => PartialRun.exec_cons_of_ok hcall []
  cases hm with
  | sent hstep hconnection hnumber => exact ⟨hone hstep, hvalid trivial⟩
  | held hstep hconnection => exact ⟨hone hstep, hvalid trivial⟩
  | echoReceived harrived hstep =>
      obtain ⟨p, _, hnumber, hpos, hrecent⟩ := h.of_mem_toClient (mem_of_arrived harrived)
      simp only [call?, harrived, Option.map_some, Option.toList_some]
      refine ⟨hone hstep, hvalid ?_⟩
      rw [hnumber]
      exact ⟨hpos, hrecent⟩
  | polled harrived hstep =>
      simp only [call?, harrived, Option.map_none, Option.toList_some]
      exact ⟨hone hstep, hvalid trivial⟩
  | dropped link i => exact ⟨by cases link <;> rfl, trivial⟩
  | duplicated link i => exact ⟨by cases link <;> rfl, trivial⟩
  | _ => exact ⟨rfl, trivial⟩

variable {clientNow serverNow : TimeOfDay} {stream : Nat → Nat} {events : List SessionEvent}

theorem exec_genuine (hrun : exec (create clientNow serverNow stream) events = .ok s)
    (hfit : Along NumbersFit (create clientNow serverNow stream) events) : s.Genuine :=
  PartialRun.invariant_along (fun _ _ _ h hfit hs => step_genuine h hfit hs)
    (create_genuine clientNow serverNow stream) hfit hrun

/-- The client of a session makes the calls of the session. -/
theorem exec_calls (hrun : exec (create clientNow serverNow stream) events = .ok s)
    (hfit : Along NumbersFit (create clientNow serverNow stream) events) :
    Client.exec (.create clientNow stream) ((create clientNow serverNow stream).calls events) =
        .ok s.client ∧
      Client.Along Client.Valid (.create clientNow stream)
        ((create clientNow serverNow stream).calls events) :=
  ⟨PartialRun.exec_emitted Session.client (fun _ _ _ h hfit hs => step_genuine h hfit hs)
      (fun _ _ _ h _ hs => ((step_move h hs).call h).1)
      (create_genuine clientNow serverNow stream) hfit hrun,
    PartialRun.along_emitted Session.client
      (fun _ _ _ h hfit hs => step_genuine h hfit hs)
      (fun _ _ _ h _ hs => (step_move h hs).call h)
      (create_genuine clientNow serverNow stream) hfit hrun⟩

theorem Genuine.call_valid (h : s.Genuine) {call : ClientCall} (hcall : s.call? event = some call) :
    s.client.Valid call := by
  cases event with
  | receivePacket arrival first second =>
      cases hcall
      cases harrived : arrived s.toClient arrival with
      | none => trivial
      | some datagram =>
          obtain ⟨p, _, hnumber, hpos, hrecent⟩ := h.of_mem_toClient (mem_of_arrived harrived)
          change 1 ≤ packetNumberOf datagram ∧ packetNumberOf datagram ≤ _
          rw [hnumber]
          exact ⟨hpos, hrecent⟩
  | sendPacket gate schedule send =>
      cases hcall
      trivial
  | _ => cases hcall

/-- However the network loses, repeats and reorders datagrams, the client of a session runs as some
sequence of its own calls would make it run, each echo with the number of a packet that was sent
before. No datagram stops the parser: a session that stops does so at a fault of that client. -/
theorem session_refines_client (clientNow serverNow : TimeOfDay) (stream : Nat → Nat)
    (events : List SessionEvent)
    (hfit : Along NumbersFit (create clientNow serverNow stream) events) :
    (∀ s, exec (create clientNow serverNow stream) events = .ok s →
      ∃ calls, Client.exec (.create clientNow stream) calls = .ok s.client ∧
        Client.Along Client.Valid (.create clientNow stream) calls) ∧
    ∀ e, exec (create clientNow serverNow stream) events = .error e →
      ∃ fault calls, e = .fault fault ∧
        Client.exec (.create clientNow stream) calls = .error fault ∧
        Client.Along Client.Valid (.create clientNow stream) calls := by
  constructor
  · intro s hrun
    exact ⟨_, exec_calls hrun hfit⟩
  · intro e hrun
    obtain ⟨pre, event, post, m, rfl, hpre, hstop⟩ := PartialRun.exec_error_prefix hrun
    have hfitPre := (hfit.append hpre).1
    have hgenuine := exec_genuine hpre hfitPre
    obtain ⟨hcalls, hvalid⟩ := exec_calls hpre hfitPre
    obtain ⟨call, fault, hcall, rfl, hfault⟩ := step_error hgenuine hstop
    refine ⟨fault, _ ++ [call], rfl, ?_, hvalid.append_of hcalls ?_⟩
    · rw [Client.exec, PartialRun.exec_append_of_ok hcalls]
      exact PartialRun.exec_cons_of_error hfault []
    · exact ⟨hgenuine.call_valid hcall, fun _ _ => trivial⟩

/-- Two packets are echoed; the network repeats the second echo and delivers it first. -/
def reordered : List SessionEvent :=
  [.sendPacket ⟨1, 0⟩ ⟨1, 1⟩ ⟨1, 2⟩, .sendPacket ⟨1, 20000⟩ ⟨1, 20001⟩ ⟨1, 20002⟩,
    .receiveData (some 0) ⟨1, 60000⟩ ⟨1, 60000⟩, .receiveData (some 0) ⟨1, 60001⟩ ⟨1, 60001⟩,
    .duplicate .toClient 1, .receivePacket (some 1) ⟨1, 140000⟩ ⟨1, 140001⟩,
    .receivePacket (some 0) ⟨1, 140002⟩ ⟨1, 140003⟩]

theorem session_refines_client_of_reordered :
    ∃ s, exec (create ⟨0, 0⟩ ⟨0, 0⟩ fun _ => 0) reordered = .ok s ∧
      ∃ calls, Client.exec (.create ⟨0, 0⟩ fun _ => 0) calls = .ok s.client ∧
        Client.Along Client.Valid (.create ⟨0, 0⟩ fun _ => 0) calls := by
  obtain ⟨s, hrun, _⟩ := PartialRun.exists_of_endsIn (p := fun _ => true)
    (r := exec (create ⟨0, 0⟩ ⟨0, 0⟩ fun _ => 0) reordered) (by decide +kernel)
  exact ⟨s, hrun, (session_refines_client ⟨0, 0⟩ ⟨0, 0⟩ _ reordered (by decide +kernel)).1 s hrun⟩

end Session

end BbrChrome
