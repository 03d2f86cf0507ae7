import BbrChrome.Client.Datagram
import BbrChrome.Client.WindowGate
import BbrChrome.Quic.SenderRun

/-!
# The copy of the controls

The client copies the window and the rate of the send algorithm when it has handled an echo.
The loss timer reports a congestion event without a copy.
-/

namespace BbrChrome

namespace Client

variable {c c' : Client} {call : ClientCall}

/-! ## The copy -/

/-- `send_control_` agrees with the send algorithm. -/
structure ControlsCopied (c : Client) : Prop where
  cwnd : c.sendControl.cwnd =
    c.connection.manager.getCongestionWindowInBytes / defaultPacketSize
  pacingRate : c.sendControl.pacingRate =
    min c.connection.manager.getPacingRate.bitsPerSecond maxPacingRate

instance (c : Client) : Decidable c.ControlsCopied :=
  decidable_of_iff (_ ∧ _) ⟨fun h => ⟨h.1, h.2⟩, fun h => ⟨h.cwnd, h.pacingRate⟩⟩

def IsReceive (call : ClientCall) : Prop :=
  ∃ echo first second, call = .receivePacket echo first second

def HandlesEcho (calls : List ClientCall) : Prop :=
  ∃ n first second, .receivePacket (some n) first second ∈ calls

/-- From the first echo on, every `ReceivePacket` ends with current controls. -/
def ControlsNeverStale (c : Client) (calls : List ClientCall) : Prop :=
  ∀ pre call post m, calls = pre ++ call :: post → IsReceive call → HandlesEcho (pre ++ [call]) →
    exec c (pre ++ [call]) = .ok m → m.ControlsCopied

/-- A poll that finds no datagram and whose timeout reports lost packets to the send algorithm. -/
def TimerReports (c : Client) : ClientCall → Prop
  | .receivePacket none first second =>
      c.connection.manager.getRetransmissionTime < first.now ∧
        (c.connection.report? (.timeout second.now)).isSome = true
  | _ => False

instance (c : Client) : ∀ call : ClientCall, Decidable (c.TimerReports call)
  | .receivePacket none first second =>
      inferInstanceAs (Decidable (c.connection.manager.getRetransmissionTime < first.now ∧
        (c.connection.report? (.timeout second.now)).isSome = true))
  | .receivePacket (some _) _ _ => .isFalse id
  | .sendPacket _ _ _ => .isFalse id

/-! ## One call -/

theorem step_sendControl (hs : step c call = .ok c') :
    match call with
    | .receivePacket (some _) _ _ => c'.ControlsCopied
    | _ => c'.sendControl.cwnd = c.sendControl.cwnd ∧
        c'.sendControl.pacingRate = c.sendControl.pacingRate := by
  cases call with
  | sendPacket gate schedule send =>
      simp only [step, sendPacket, isTimeToSendNextPacket] at hs
      split at hs
      · cases hnext : c.setNextSendTime schedule with
        | error e => simp [hnext, bind, Except.bind] at hs
        | ok scheduled =>
            simp only [hnext, bind, Except.bind, pure, Except.pure, if_true] at hs
            cases hs
            unfold setNextSendTime at hnext
            split at hnext
            · cases hnext
              exact ⟨rfl, rfl⟩
            · cases hnext
      · simp only [bind, Except.bind, pure, Except.pure, Bool.false_eq_true, if_false] at hs
        cases hs
        exact ⟨rfl, rfl⟩
  | receivePacket echo first second =>
      cases echo with
      | some n =>
          obtain ⟨connection, _, rfl⟩ := onPacketReceived_ok_iff.mp hs
          exact ⟨rfl, rfl⟩
      | none =>
          simp only [step, receivePacket] at hs
          split at hs
          · cases htimeout : c.connection.timeout second.now with
            | error e => simp [htimeout, bind, Except.bind] at hs
            | ok connection =>
                simp only [htimeout, bind, Except.bind, pure, Except.pure] at hs
                cases hs
                exact ⟨rfl, rfl⟩
          · cases hs
            exact ⟨rfl, rfl⟩

/-- Without an echo and a report of the timer the send algorithm keeps its window and its rate. -/
theorem sender_of_quiet (h : c.connection.Synced) (hquiet : ¬ c.TimerReports call)
    (hs : step c call = .ok c')
    (hecho : ∀ n first second, call ≠ .receivePacket (some n) first second) :
    c'.connection.sender.cwnd = c.connection.sender.cwnd ∧
      c'.connection.sender.pacingRate = c.connection.sender.pacingRate := by
  have hperforms := (step_spec hs).1
  cases hop : c.operation? call with
  | none =>
      rw [hop] at hperforms
      rw [show c'.connection = c.connection from hperforms]
      exact ⟨rfl, rfl⟩
  | some op =>
      rw [hop] at hperforms
      have hsender := h.step_sender hperforms
      cases call with
      | sendPacket gate schedule send =>
          simp only [operation?] at hop
          split at hop
          · cases hop
            rw [hsender]
            exact (Bbr2Sender.onPacketSent_frame _ _ _ _).2
          · cases hop
      | receivePacket echo first second =>
          cases echo with
          | some n => exact absurd rfl (hecho n first second)
          | none =>
              simp only [operation?] at hop
              split at hop
              · rename_i hexpired
                cases hop
                have hnone : c.connection.report? (.timeout second.now) = none := by
                  by_contra hsome
                  exact hquiet ⟨hexpired, Option.isSome_iff_ne_none.mpr hsome⟩
                simp only [Connection.senderCall?, hnone, Option.map_none, Option.elim_none]
                  at hsender
                rw [hsender]
                exact ⟨rfl, rfl⟩
              · cases hop

theorem ControlsCopied.step (h : c.ControlsCopied) (hsynced : c.connection.Synced)
    (hquiet : ¬ c.TimerReports call) (hs : Client.step c call = .ok c') : c'.ControlsCopied := by
  have hcontrol := step_sendControl hs
  by_cases hecho : ∃ n first second, call = .receivePacket (some n) first second
  · obtain ⟨n, first, second, rfl⟩ := hecho
    exact hcontrol
  · simp only [not_exists] at hecho
    obtain ⟨hcwnd, hrate⟩ := sender_of_quiet hsynced hquiet hs hecho
    have hkept : c'.sendControl.cwnd = c.sendControl.cwnd ∧
        c'.sendControl.pacingRate = c.sendControl.pacingRate := by
      cases call with
      | sendPacket => exact hcontrol
      | receivePacket echo first second =>
          cases echo with
          | some n => exact absurd rfl (hecho n first second)
          | none => exact hcontrol
    refine ⟨hkept.1.trans ?_, hkept.2.trans ?_⟩
    · rw [h.cwnd]
      show c.connection.sender.cwnd / _ = c'.connection.sender.cwnd / _
      rw [hcwnd]
    · rw [h.pacingRate]
      show min c.connection.sender.pacingRate.bitsPerSecond _ =
        min c'.connection.sender.pacingRate.bitsPerSecond _
      rw [hrate]

/-! ## Runs -/

/-- As long as the loss timer reports nothing, the client's copy of the controls is current. -/
theorem controls_never_stale (now : TimeOfDay) (stream : Nat → Nat) (calls : List ClientCall)
    (hquiet : Along (fun c call => ¬ c.TimerReports call) (create now stream) calls) :
    ControlsNeverStale (create now stream) calls := by
  rintro pre call post m rfl _ ⟨n, first, second, hmem⟩ hrun
  rw [List.append_cons] at hquiet
  have halong := (PartialRun.Along.append hrun hquiet).1
  obtain ⟨before, behind, hsplit⟩ := List.append_of_mem hmem
  rw [hsplit] at hrun halong
  obtain ⟨reached, hbefore, hrest⟩ := PartialRun.exec_append_ok hrun
  obtain ⟨echoed, hecho, hbehind⟩ := PartialRun.exec_cons_ok hrest
  have hsynced := exec_synced hbefore
  have hstart : echoed.connection.Synced ∧ echoed.ControlsCopied :=
    ⟨connection_invariant (fun _ _ _ _ h hs => h.step hs) hsynced hecho, step_sendControl hecho⟩
  have hbehindAlong := (PartialRun.Along.append hbefore halong).2.2 echoed hecho
  -- From the echo on, every call keeps the copy current.
  have hstep : ∀ c call c', c.connection.Synced ∧ c.ControlsCopied → ¬ c.TimerReports call →
      step c call = .ok c' → c'.connection.Synced ∧ c'.ControlsCopied :=
    fun c call c' h hquiet hs =>
      ⟨connection_invariant (fun _ _ _ _ h hs => h.step hs) h.1 hs, h.2.step h.1 hquiet hs⟩
  exact (PartialRun.invariant_along hstep hstart hbehindAlong hbehind).2

def microsecond (time : Nat) : TimeOfDay := ⟨time / 1000000, time % 1000000⟩

def sendAt (time : Nat) : ClientCall :=
  .sendPacket (microsecond time) (microsecond time) (microsecond time)

def receiveAt (echo : Option Nat) (time : Nat) : ClientCall :=
  .receivePacket echo (microsecond time) (microsecond time)

/-- Four round trips of 100 ms end STARTUP; then packet 5 stays behind when packet 6 is echoed. -/
def overtaken : List ClientCall :=
  [sendAt 100000, receiveAt (some 1) 200000, sendAt 300000, receiveAt (some 2) 400000,
    sendAt 500000, receiveAt (some 3) 600000, sendAt 700000, receiveAt (some 4) 800000,
    sendAt 900000, sendAt 920000, receiveAt (some 6) 1020000]

theorem controls_never_stale_of_echo :
    ControlsNeverStale (create ⟨0, 0⟩ fun _ => 0) overtaken :=
  controls_never_stale _ _ _ (by decide +kernel)

/-- The loss timer gives packet 5 up. The sender starts to refill the pipe at 117760 bits per
second, the client goes on with 88320. -/
theorem rate_stale_after_loss_timeout :
    ¬ ControlsNeverStale (create ⟨0, 0⟩ fun _ => 0) (overtaken ++ [receiveAt none 1200000]) := by
  intro hnever
  obtain ⟨c, hrun, hstale⟩ := PartialRun.exists_of_endsIn
    (p := fun c : Client => ¬ c.ControlsCopied ∧ c.sendControl.pacingRate = 88320 ∧
      c.connection.manager.getPacingRate.bitsPerSecond = 117760)
    (r := exec (create ⟨0, 0⟩ fun _ => 0) (overtaken ++ [receiveAt none 1200000]))
    (by decide +kernel)
  exact (of_decide_eq_true hstale).1
    (hnever overtaken _ [] c rfl ⟨_, _, _, rfl⟩
      ⟨6, microsecond 1020000, microsecond 1020000, by decide⟩ hrun)

end Client

end BbrChrome
