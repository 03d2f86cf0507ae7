import BbrChrome.Client.ClientRun
import BbrChrome.Congestion.Bbr2Event
import BbrChrome.Congestion.Bbr2Writes

/-!
# The two gates of the window

The client counts whole packets against its copy of the window, the send algorithm
compares bytes. They disagree when less than one packet of the window is left.
-/

namespace BbrChrome

open QuicUnackedPacketMap QuicSentPacketManager

namespace Client

variable {c c' : Client} {call : ClientCall}

def congestionWindow (c : Client) : Nat := c.connection.manager.getCongestionWindowInBytes

def canSend (c : Client) : Bool :=
  SendAlgorithmInterface.canSend c.connection.manager.sendAlgorithm c.bytesInFlight

/-- The gate of the client refuses exactly when `CanSend` does, and a congestion event that
starts with a closed gate and the same window is limited by the window. -/
structure GatesAgree (c : Client) : Prop where
  agree : c.windowIsOpen = c.canSend
  limited : c.windowIsOpen = false → ∀ (s : Bbr2Sender) eventTime ackedPackets lostPackets,
    s.cwnd = c.congestionWindow →
      s.model.isCongestionWindowLimited
        (s.congestionEvent c.bytesInFlight eventTime ackedPackets lostPackets) = true

/-- The window is above the bytes in flight by less than a packet. -/
def PartialRoom (c : Client) : Prop :=
  c.bytesInFlight < c.congestionWindow ∧ c.congestionWindow < c.bytesInFlight + defaultPacketSize

instance (c : Client) : Decidable c.PartialRoom := by
  unfold PartialRoom
  infer_instance

/-- The copy of the window is the window of the send algorithm in packets. -/
def WindowCopied (c : Client) : Prop :=
  c.sendControl.cwnd = c.congestionWindow / defaultPacketSize

theorem limited_of_le {s : Bbr2Sender} {priorInFlight : Nat} (h : s.cwnd ≤ priorInFlight)
    (eventTime : Int) (ackedPackets : List AckedPacket) (lostPackets : List LostPacket) :
    s.model.isCongestionWindowLimited
      (s.congestionEvent priorInFlight eventTime ackedPackets lostPackets) = true := by
  have hprior := s.model.prior_le_onCongestionEventStart eventTime ackedPackets lostPackets
    (s.startCongestionEvent priorInFlight)
  unfold Bbr2NetworkModel.isCongestionWindowLimited Bbr2Sender.congestionEvent
  apply decide_eq_true
  exact (h.trans hprior : s.cwnd ≤ _)

/-- The gates agree exactly when the window has room for a whole packet or for nothing. -/
theorem gatesAgree_iff (h : c.connection.WholePackets) (hcopied : c.WindowCopied) :
    c.GatesAgree ↔ ¬ c.PartialRoom := by
  have hbytes : c.bytesInFlight = defaultPacketSize * c.connection.map.packetsInFlight :=
    h.bytesInFlight
  have hopen : c.windowIsOpen = true ↔
      c.connection.map.packetsInFlight < c.congestionWindow / defaultPacketSize := by
    unfold windowIsOpen
    rw [decide_eq_true_iff, hcopied, hbytes, Nat.mul_div_cancel_left _ (by decide)]
  have hcan : c.canSend = true ↔ c.bytesInFlight < c.congestionWindow := by
    exact decide_eq_true_iff
  unfold PartialRoom
  constructor
  · intro hagree hroom
    have hclosed := hagree.agree
    rw [Bool.eq_iff_iff, hopen, hcan, hbytes] at hclosed
    have hlt := hclosed.mpr (hbytes ▸ hroom.1)
    rw [Nat.lt_div_iff_mul_lt (by decide)] at hlt
    unfold defaultPacketSize at *
    omega
  · intro hroom
    have hagree : c.windowIsOpen = c.canSend := by
      rw [Bool.eq_iff_iff, hopen, hcan]
      unfold defaultPacketSize at *
      omega
    refine ⟨hagree, fun hclosed s eventTime ackedPackets lostPackets hcwnd => ?_⟩
    apply limited_of_le
    have hno : ¬ c.bytesInFlight < c.congestionWindow := by
      rw [← hcan, ← hagree, hclosed]
      decide
    omega

def IsSend (call : ClientCall) : Prop :=
  ∃ gate schedule send, call = .sendPacket gate schedule send

theorem congestionWindow_of_send (hsend : IsSend call) (hs : step c call = .ok c') :
    c'.congestionWindow = c.congestionWindow := by
  rcases hsend with ⟨gate, schedule, send, rfl⟩
  have hperforms := (step_spec hs).1
  simp only [operation?] at hperforms
  split at hperforms
  · have hconnection : c'.connection = c.connection.send defaultPacketLength send.now :=
      (Except.ok.inj hperforms).symm
    unfold congestionWindow
    rw [hconnection]
    exact (Bbr2Sender.onPacketSent_frame _ _ _ _).2.1
  · unfold congestionWindow
    rw [show c'.connection = c.connection from hperforms]

theorem WindowCopied.step (h : c.WindowCopied) (hsend : IsSend call)
    (hs : Client.step c call = .ok c') : c'.WindowCopied := by
  have hwindow := congestionWindow_of_send hsend hs
  have hcopy := (step_spec hs).2
  rcases hsend with ⟨gate, schedule, send, rfl⟩
  unfold WindowCopied at h ⊢
  rw [hwindow, ← h]
  exact hcopy

/-- After an ack and any number of sends the client has a copy of the current window. -/
theorem exec_windowCopied {packetNumber : Nat} {first second : TimeOfDay}
    {sends : List ClientCall} (hsends : ∀ call ∈ sends, IsSend call)
    (hrun : exec c (.receivePacket (some packetNumber) first second :: sends) = .ok c') :
    c'.WindowCopied := by
  obtain ⟨acked, hack, hrest⟩ := PartialRun.exec_cons_ok hrun
  have hcopied : acked.WindowCopied := (step_spec hack).2
  have halong : PartialRun.Along step (fun _ call => IsSend call) acked sends := by
    refine PartialRun.along_iff_prefix.mpr fun pre call post _ hsplit _ => hsends call ?_
    rw [hsplit]
    simp
  exact PartialRun.invariant_along (fun _ _ _ h hsend hs => h.step hsend hs) hcopied halong hrest

/-- In every state that the client reaches by processing an ack and then sending, the two
gates agree exactly when the window does not end within the next packet. -/
theorem window_gate_iff (now : TimeOfDay) (stream : Nat → Nat) (pre : List ClientCall)
    (packetNumber : Nat) (first second : TimeOfDay) (sends : List ClientCall)
    (hsends : ∀ call ∈ sends, IsSend call)
    (hrun : exec (create now stream)
      (pre ++ .receivePacket (some packetNumber) first second :: sends) = .ok c) :
    c.GatesAgree ↔ ¬ c.PartialRoom := by
  obtain ⟨_, _, hsuffix⟩ := PartialRun.exec_append_ok hrun
  exact gatesAgree_iff (exec_wholePackets hrun) (exec_windowCopied hsends hsuffix)

def sendsFrom (first count : Nat) : List ClientCall :=
  (List.range count).map fun i =>
    let time : TimeOfDay := ⟨(first + i) / 10, (first + i) % 10 * 100000⟩
    .sendPacket time time time

theorem window_gate_iff_of_echo :
    ∃ c, exec (create ⟨0, 0⟩ fun _ => 0)
        (sendsFrom 1 1 ++ .receivePacket (some 1) ⟨0, 200000⟩ ⟨0, 200001⟩ :: sendsFrom 3 2) =
          .ok c ∧
      (c.GatesAgree ↔ ¬ c.PartialRoom) := by
  obtain ⟨c, hrun, _⟩ := PartialRun.exists_of_endsIn (p := fun _ => true)
    (r := exec (create ⟨0, 0⟩ fun _ => 0)
      (sendsFrom 1 1 ++ .receivePacket (some 1) ⟨0, 200000⟩ ⟨0, 200001⟩ :: sendsFrom 3 2))
    (by decide +kernel)
  refine ⟨c, hrun, window_gate_iff _ _ _ _ _ _ _ (fun call hcall => ?_) hrun⟩
  obtain ⟨i, _, rfl⟩ := List.mem_map.mp hcall
  exact ⟨_, _, _, rfl⟩

/-- With 32 packets in flight and a window of 48192 bytes the client is blocked, although
the send algorithm has 1088 bytes left. -/
theorem gates_disagree :
    ∃ c, exec (create ⟨0, 0⟩ fun _ => 0)
        (sendsFrom 1 4 ++ .receivePacket (some 1) ⟨0, 500000⟩ ⟨0, 500001⟩ :: sendsFrom 6 29) =
          .ok c ∧
      c.windowIsOpen = false ∧ c.canSend = true ∧
      c.connection.manager.sendAlgorithm.model.isCongestionWindowLimited
        (c.connection.manager.sendAlgorithm.congestionEvent c.bytesInFlight 4000000 [] []) =
          false := by
  obtain ⟨c, hrun, hends⟩ := PartialRun.exists_of_endsIn
    (p := fun c : Client => c.windowIsOpen = false ∧ c.canSend = true ∧
      c.connection.manager.sendAlgorithm.model.isCongestionWindowLimited
        (c.connection.manager.sendAlgorithm.congestionEvent c.bytesInFlight 4000000 [] []) =
          false)
    (r := exec (create ⟨0, 0⟩ fun _ => 0)
      (sendsFrom 1 4 ++ .receivePacket (some 1) ⟨0, 500000⟩ ⟨0, 500001⟩ :: sendsFrom 6 29))
    (by decide +kernel)
  exact ⟨c, hrun, of_decide_eq_true hends⟩

end Client

end BbrChrome
