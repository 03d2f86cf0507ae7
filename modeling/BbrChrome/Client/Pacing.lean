import BbrChrome.Client.ControlCopy
import BbrChrome.Library.Emission
import BbrChrome.Library.NearestRounding

/-!
# The pace of the client

Two packets in a row are further apart than a packet takes at the rate that was copied when the
first one left. So no stretch of a run exceeds the largest rate.
-/

namespace BbrChrome

open Rounding

def packetMicrobits : Nat := defaultPacketSize * 8 * 1000000

/-- A packet that leaves: the readings of the gate and of the schedule, and the rate in force. -/
structure Departure where
  gate : Int
  schedule : Int
  pacingRate : Nat
deriving DecidableEq, Repr

namespace Departure

/-- The time between two packets is longer than one packet takes at the rate of the first. -/
def Paced (first second : Departure) : Prop :=
  (packetMicrobits : Int) < first.pacingRate * (second.gate - first.schedule)

/-- The rate is not above the limit, and the clock does not run backwards in the call. -/
structure Bounded (departure : Departure) : Prop where
  rate : departure.pacingRate ≤ maxPacingRate
  clock : departure.gate ≤ departure.schedule

variable {first second : Departure}

theorem Paced.at_limit (h : first.Paced second) (hrate : first.pacingRate ≤ maxPacingRate) :
    (packetMicrobits : Int) < maxPacingRate * (second.gate - first.schedule) := by
  unfold Paced at h
  have hpos : 0 < second.gate - first.schedule := by
    by_contra hneg
    have hle : (first.pacingRate : Int) * (second.gate - first.schedule) ≤ 0 :=
      Int.mul_nonpos_of_nonneg_of_nonpos (Int.natCast_nonneg _) (Int.not_lt.mp hneg)
    have hbits : (0 : Int) ≤ packetMicrobits := Int.natCast_nonneg _
    omega
  calc (packetMicrobits : Int) < first.pacingRate * (second.gate - first.schedule) := h
    _ ≤ maxPacingRate * (second.gate - first.schedule) :=
        Int.mul_le_mul_of_nonneg_right (by exact_mod_cast hrate) hpos.le

theorem paced_stretch {between : List Departure}
    (hchain : (first :: (between ++ [second])).IsChain Paced)
    (hbounded : ∀ departure ∈ first :: between, departure.Bounded) :
    (packetMicrobits : Int) * (between.length + 1) <
      maxPacingRate * (second.gate - first.schedule) := by
  induction between generalizing first with
  | nil =>
      have hpaced : first.Paced second := by simpa using hchain
      have hlimit := hpaced.at_limit (hbounded first (by simp)).rate
      simpa using hlimit
  | cons next between ih =>
      rw [List.cons_append, List.isChain_cons_cons] at hchain
      have hlimit := hchain.1.at_limit (hbounded first (by simp)).rate
      have hrest := ih hchain.2 fun departure hmem =>
        hbounded departure (List.mem_cons_of_mem _ hmem)
      have hclock := (hbounded next (by simp)).clock
      simp only [List.length_cons, Nat.cast_add, Nat.cast_one] at hrest ⊢
      unfold maxPacingRate packetMicrobits defaultPacketSize at *
      push_cast at *
      linarith

end Departure

namespace Client

variable {c c' : Client} {call : ClientCall} {now : TimeOfDay} {stream : Nat → Nat}
  {calls : List ClientCall}

/-! ## The schedule -/

/-- `double` keeps the whole microseconds of the quotient. -/
theorem durationBetweenSends_eq {pacingRate : Nat} (hpos : 0 < pacingRate)
    (hlt : pacingRate < 2 ^ 53) :
    durationBetweenSends pacingRate = (packetMicrobits / pacingRate : Nat) := by
  have hrate : float64 pacingRate = pacingRate := roundSig_natCast_of_lt hlt
  have hquot : 0 ≤ float64 ((packetMicrobits : Rat) / pacingRate) := roundSig_nonneg (by positivity)
  unfold durationBetweenSends truncate
  rw [hrate]
  change (if 0 ≤ float64 ((packetMicrobits : Rat) / pacingRate) then
    (float64 ((packetMicrobits : Rat) / pacingRate)).floor else _) = _
  rw [if_pos hquot]
  exact floor_roundSig_div hpos (by decide)

/-- The schedule covers the last packet at the rate in force, up to the next microsecond. -/
theorem lt_schedule {pacingRate : Nat} (hpos : 0 < pacingRate) (hle : pacingRate ≤ maxPacingRate) :
    (packetMicrobits : Int) < pacingRate * (durationBetweenSends pacingRate + 1) := by
  have hlt : pacingRate < 2 ^ 53 := lt_of_le_of_lt hle (by decide)
  rw [durationBetweenSends_eq hpos hlt]
  exact_mod_cast Nat.lt_mul_div_succ packetMicrobits hpos

def departure? (c : Client) (call : ClientCall) : Option Departure :=
  match call with
  | .sendPacket gate schedule _ =>
      if c.windowIsOpen && c.sendControl.nextSendTimestamp < gate.now then
        some { gate := gate.now, schedule := schedule.now, pacingRate := c.sendControl.pacingRate }
      else none
  | _ => none

def departures (c : Client) (calls : List ClientCall) : List Departure :=
  PartialRun.emitted step (fun c call => (c.departure? call).toList) c calls

theorem step_departure (hs : step c call = .ok c') :
    c'.connection.recentPacketNumber =
        c.connection.recentPacketNumber + (c.departure? call).toList.length ∧
      match c.departure? call with
      | some departure =>
          departure.pacingRate = c.sendControl.pacingRate ∧ 0 < departure.pacingRate ∧
            c.sendControl.nextSendTimestamp < departure.gate ∧
            c'.sendControl.nextSendTimestamp =
              departure.schedule + durationBetweenSends departure.pacingRate
      | none => c'.sendControl.nextSendTimestamp = c.sendControl.nextSendTimestamp := by
  cases call with
  | sendPacket gate schedule send =>
      simp only [step, sendPacket, isTimeToSendNextPacket] at hs
      simp only [departure?]
      split at hs
      · rename_i hopen
        rw [if_pos hopen]
        unfold setNextSendTime at hs
        split at hs
        · rename_i hrate
          simp only [bind, Except.bind, pure, Except.pure, if_true] at hs
          cases hs
          have hgate := of_decide_eq_true (Bool.and_eq_true_iff.mp hopen).2
          exact ⟨rfl, rfl, hrate, hgate, rfl⟩
        · cases hs
      · rename_i hclosed
        rw [if_neg hclosed]
        simp only [bind, Except.bind, pure, Except.pure, Bool.false_eq_true, if_false] at hs
        cases hs
        exact ⟨rfl, rfl⟩
  | receivePacket echo first second =>
      refine ⟨receivePacket_recentPacketNumber hs, ?_⟩
      cases echo with
      | some n =>
          obtain ⟨connection, _, rfl⟩ := onPacketReceived_ok_iff.mp hs
          rfl
      | none =>
          simp only [step, receivePacket] at hs
          split at hs
          · cases htimeout : c.connection.timeout second.now with
            | error e => simp [htimeout, bind, Except.bind] at hs
            | ok connection =>
                simp only [htimeout, bind, Except.bind, pure, Except.pure] at hs
                cases hs
                rfl
          · cases hs
            rfl

/-- The departures of a run, and the schedule behind the last one. -/
structure PacedSoFar (c : Client) (sent : List Departure) : Prop where
  rate : c.sendControl.pacingRate ≤ maxPacingRate
  count : sent.length = c.connection.recentPacketNumber
  positive : ∀ departure ∈ sent, 0 < departure.pacingRate ∧ departure.pacingRate ≤ maxPacingRate
  chain : sent.IsChain Departure.Paced
  last : ∀ departure ∈ sent.getLast?, c.sendControl.nextSendTimestamp =
    departure.schedule + durationBetweenSends departure.pacingRate

theorem step_pacingRate (hs : step c call = .ok c')
    (h : c.sendControl.pacingRate ≤ maxPacingRate) :
    c'.sendControl.pacingRate ≤ maxPacingRate := by
  have hcontrol := step_sendControl hs
  split at hcontrol
  · rw [hcontrol.pacingRate]
    exact min_le_right _ _
  · rw [hcontrol.2]
    exact h

theorem PacedSoFar.step {sent : List Departure} (h : c.PacedSoFar sent)
    (hs : Client.step c call = .ok c') :
    c'.PacedSoFar (sent ++ (c.departure? call).toList) := by
  obtain ⟨hcount, hdeparture⟩ := step_departure hs
  have hrate := step_pacingRate hs h.rate
  cases hcall : c.departure? call with
  | none =>
      rw [hcall] at hcount hdeparture
      rw [Option.toList_none, List.append_nil]
      refine ⟨hrate, by rw [h.count, hcount]; rfl, h.positive, h.chain, ?_⟩
      intro departure hmem
      rw [hdeparture]
      exact h.last departure hmem
  | some departure =>
      rw [hcall] at hcount hdeparture
      obtain ⟨hsame, hpos, hgate, hschedule⟩ := hdeparture
      rw [Option.toList_some]
      refine ⟨hrate, ?_, ?_, ?_, ?_⟩
      · rw [List.length_append, h.count, hcount]
        rfl
      · intro other hmem
        rcases List.mem_append.mp hmem with hmem | hmem
        · exact h.positive other hmem
        · rw [List.mem_singleton.mp hmem]
          exact ⟨hpos, hsame ▸ h.rate⟩
      · refine List.isChain_append.mpr ⟨h.chain, List.isChain_singleton _, ?_⟩
        intro before hbefore after hafter
        cases hafter
        obtain ⟨hposBefore, hmax⟩ := h.positive before (List.mem_of_mem_getLast? hbefore)
        rw [h.last before hbefore] at hgate
        calc (packetMicrobits : Int)
            < before.pacingRate * (durationBetweenSends before.pacingRate + 1) :=
              lt_schedule hposBefore hmax
          _ ≤ before.pacingRate * (departure.gate - before.schedule) :=
              Int.mul_le_mul_of_nonneg_left (by omega) (Int.natCast_nonneg _)
      · intro other hmem
        rw [List.getLast?_append, List.getLast?_singleton] at hmem
        cases hmem
        exact hschedule

theorem exec_paced (hrun : exec (create now stream) calls = .ok c) :
    c.PacedSoFar ((create now stream).departures calls) := by
  refine PartialRun.exec_induction
    (motive := fun calls c => c.PacedSoFar ((create now stream).departures calls)) ?_ ?_ hrun
  · have hinitial : initialPacingRate ≤ maxPacingRate := by decide
    exact ⟨hinitial, rfl, by simp [departures, PartialRun.emitted], List.isChain_nil,
      by simp [departures, PartialRun.emitted]⟩
  · intro calls c call c' hpre hs h
    rw [departures, PartialRun.emitted_concat hpre hs]
    exact h.step hs

def InOrder (_ : Client) : ClientCall → Prop
  | .sendPacket gate schedule _ => gate.now ≤ schedule.now
  | .receivePacket _ first second => first.now ≤ second.now

instance (c : Client) : ∀ call : ClientCall, Decidable (c.InOrder call)
  | .sendPacket gate schedule _ => inferInstanceAs (Decidable (gate.now ≤ schedule.now))
  | .receivePacket _ first second => inferInstanceAs (Decidable (first.now ≤ second.now))

theorem departures_clock (horder : Along InOrder c calls) :
    ∀ departure ∈ c.departures calls, departure.gate ≤ departure.schedule := by
  induction calls generalizing c with
  | nil => simp [departures, PartialRun.emitted]
  | cons call calls ih =>
      intro departure hmem
      unfold departures PartialRun.emitted at hmem
      split at hmem
      · rename_i c' hs
        rcases List.mem_append.mp hmem with hmem | hmem
        · have hsent : c.departure? call = some departure := Option.mem_toList.mp hmem
          unfold departure? at hsent
          split at hsent
          · split at hsent
            · cases hsent
              exact horder.1
            · cases hsent
          · cases hsent
        · exact ih (horder.2 c' hs) departure hmem
      · cases hmem

/-- Every packet leaves later than the one before it takes at the rate that was copied when that
one left, and no stretch of a run carries more bits than the largest rate lets through in its
time, whatever rates the send algorithm asks for. -/
theorem departures_paced (now : TimeOfDay) (stream : Nat → Nat) (calls : List ClientCall)
    (hrun : exec (create now stream) calls = .ok c) :
    ((create now stream).departures calls).length = c.connection.recentPacketNumber ∧
    ((create now stream).departures calls).IsChain Departure.Paced ∧
    (Along InOrder (create now stream) calls → ∀ before first between last behind,
      (create now stream).departures calls =
        before ++ first :: (between ++ last :: behind) →
      (packetMicrobits : Int) * (between.length + 1) <
        maxPacingRate * (last.gate - first.schedule)) := by
  have hpaced := exec_paced hrun
  refine ⟨hpaced.count, hpaced.chain, ?_⟩
  intro horder before first between last behind hsplit
  have hstretch : (first :: between) ++ last :: behind =
      first :: (between ++ [last]) ++ behind := by simp
  have hchain := hpaced.chain
  rw [hsplit, ← List.cons_append, hstretch] at hchain
  apply Departure.paced_stretch hchain.right_of_append.left_of_append
  intro departure hmem
  have hall : departure ∈ (create now stream).departures calls := by
    rw [hsplit, ← List.cons_append]
    exact List.mem_append_right _ (List.mem_append_left _ hmem)
  exact ⟨(hpaced.positive departure hall).2, departures_clock horder departure hall⟩

theorem departures_paced_of_overtaken :
    ∃ c, exec (create ⟨0, 0⟩ fun _ => 0) overtaken = .ok c ∧
      ((create ⟨0, 0⟩ fun _ => 0).departures overtaken).length =
        c.connection.recentPacketNumber ∧
      ∀ before first between last behind,
        (create ⟨0, 0⟩ fun _ => 0).departures overtaken =
          before ++ first :: (between ++ last :: behind) →
        (packetMicrobits : Int) * (between.length + 1) <
          maxPacingRate * (last.gate - first.schedule) := by
  obtain ⟨c, hrun, _⟩ := PartialRun.exists_of_endsIn (p := fun _ => true)
    (r := exec (create ⟨0, 0⟩ fun _ => 0) overtaken) (by decide +kernel)
  obtain ⟨hcount, _, hlimit⟩ := departures_paced ⟨0, 0⟩ _ overtaken hrun
  exact ⟨c, hrun, hcount, hlimit (by decide +kernel)⟩

end Client

end BbrChrome
