import BbrChrome.Client.ClientRun
import Mathlib.Data.List.Pairwise

/-!
# The time of the sender

`Now` reduces the seconds modulo 100000 before it scales them. Readings of one block of 100000
seconds keep their order and their distance; between two blocks the time falls back. What this
means for the send times and the samples of a run of the client.
-/

namespace BbrChrome

/-! ## Readings -/

namespace TimeOfDay

def IsValid (r : TimeOfDay) : Prop := r.usec < 1000000

def Precedes (r₁ r₂ : TimeOfDay) : Prop :=
  r₁.sec < r₂.sec ∨ r₁.sec = r₂.sec ∧ r₁.usec ≤ r₂.usec

instance : DecidablePred IsValid := fun r => by unfold IsValid; infer_instance

instance : DecidableRel Precedes := fun r₁ r₂ => by unfold Precedes; infer_instance

def elapsed (r₁ r₂ : TimeOfDay) : Int :=
  ((r₂.sec : Int) - r₁.sec) * 1000000 + ((r₂.usec : Int) - r₁.usec)

/-- The 100000 seconds that the tick count does not tell from others. -/
def block (r : TimeOfDay) : Nat := r.sec / 100000

/-- The time does not run backwards and counts the microseconds. -/
def Keeps (r₁ r₂ : TimeOfDay) : Prop := r₁.now ≤ r₂.now ∧ r₂.now - r₁.now = r₁.elapsed r₂

variable {r₁ r₂ : TimeOfDay}

/-- Every block between two readings costs the time 10^11 microseconds. -/
theorem now_sub_now (r₁ r₂ : TimeOfDay) :
    r₂.now - r₁.now = r₁.elapsed r₂ - 100000000000 * ((r₂.block : Int) - r₁.block) := by
  unfold now elapsed block
  omega

theorem elapsed_nonneg (h : r₁.Precedes r₂) (h₁ : r₁.IsValid) : 0 ≤ r₁.elapsed r₂ := by
  unfold Precedes at h
  unfold IsValid at h₁
  unfold elapsed
  omega

/-- Exactly the readings of one block keep their order and their distance. -/
theorem keeps_iff (h : r₁.Precedes r₂) (h₁ : r₁.IsValid) :
    r₁.Keeps r₂ ↔ r₂.block = r₁.block := by
  have hsub := now_sub_now r₁ r₂
  have hpos := elapsed_nonneg h h₁
  unfold Keeps
  constructor
  · intro ⟨_, hexact⟩
    omega
  · intro hblock
    rw [hblock] at hsub
    omega

end TimeOfDay

namespace ClientCall

/-- The readings of a call, in the order in which they are taken; one that the call does not come
to repeats the one before it. -/
def readings : ClientCall → List TimeOfDay
  | .sendPacket gate schedule send => [gate, schedule, send]
  | .receivePacket _ first second => [first, second]

end ClientCall

/-! ## The sample of an ack -/

namespace QuicSentPacketManager

variable {σ : Type}

/-- The `send_delta` of `MaybeUpdateRTT`, if it computes one. -/
def sendDelta? (m : QuicSentPacketManager σ) (largestAcked : Nat) (ackReceiveTime : Int) :
    Option Int :=
  if !m.unackedPackets.isUnacked largestAcked then none
  else
    match m.unackedPackets.info? largestAcked with
    | none => none
    | some info =>
        if info.sentTime = 0 then none
        else if info.state = .notContributingRtt then none
        else some (ackReceiveTime - info.sentTime)

/-- The RTT statistics take the send delta and nothing else. -/
theorem maybeUpdateRtt_eq_sendDelta (m : QuicSentPacketManager σ) (largestAcked : Nat)
    (ackReceiveTime : Int) :
    m.maybeUpdateRtt largestAcked ackReceiveTime =
      match m.sendDelta? largestAcked ackReceiveTime with
      | some sendDelta =>
          .ok ({ m with rttStats := m.rttStats.updateRtt sendDelta 0 ackReceiveTime }, true)
      | none => .ok (m, false) := by
  unfold maybeUpdateRtt sendDelta?
  cases hinfo : m.unackedPackets.info? largestAcked with
  | none => simp [QuicUnackedPacketMap.isUnacked, hinfo]
  | some info =>
      simp only [QuicUnackedPacketMap.getTransmissionInfo, hinfo, bind, Except.bind, pure,
        Except.pure]
      split_ifs <;> rfl

theorem sendDelta?_some {m : QuicSentPacketManager σ} {largestAcked : Nat} {ackReceiveTime : Int}
    {sendDelta : Int} (h : m.sendDelta? largestAcked ackReceiveTime = some sendDelta) :
    ∃ info, m.unackedPackets.info? largestAcked = some info ∧
      sendDelta = ackReceiveTime - info.sentTime := by
  unfold sendDelta? at h
  cases hinfo : m.unackedPackets.info? largestAcked with
  | none =>
      rw [hinfo] at h
      split at h <;> cases h
  | some info =>
      rw [hinfo] at h
      dsimp only at h
      split_ifs at h
      exact ⟨info, rfl, (Option.some.inj h).symm⟩

end QuicSentPacketManager

theorem Connection.Outcome.recentPacketNumber_eq {σ : Type} [SendAlgorithmInterface σ]
    {c c' : Connection σ} {op : Operation} (h : c.Outcome op c')
    (hop : ∀ length sendTime, op ≠ .send length sendTime) :
    c'.recentPacketNumber = c.recentPacketNumber := by
  cases h with
  | send length sendTime => exact absurd rfl (hop length sendTime)
  | _ => rfl

namespace Client

open TimeOfDay

variable {start : TimeOfDay} {stream : Nat → Nat} {c c' : Client} {call : ClientCall}
  {calls : List ClientCall} {sends : List TimeOfDay}

/-! ## The readings of a run -/

def readings (start : TimeOfDay) (calls : List ClientCall) : List TimeOfDay :=
  start :: calls.flatMap ClientCall.readings

def noteSend (sends : List TimeOfDay) (c : Client) (call : ClientCall) (c' : Client) :
    List TimeOfDay :=
  match call with
  | .sendPacket _ _ send =>
      if c'.connection.recentPacketNumber = c.connection.recentPacketNumber then sends
      else sends ++ [send]
  | .receivePacket _ _ _ => sends

/-- The readings with which the packets 1, 2, 3, … of a run were sent. -/
def sendReadings (start : TimeOfDay) (stream : Nat → Nat) (calls : List ClientCall) :
    List TimeOfDay :=
  PartialRun.observed step noteSend (create start stream) [] calls

theorem observed_noteSend (c : Client) (sends : List TimeOfDay) (calls : List ClientCall) :
    ∃ later, PartialRun.observed step noteSend c sends calls = sends ++ later ∧
      later.Sublist (calls.flatMap ClientCall.readings) := by
  induction calls generalizing c sends with
  | nil => exact ⟨[], by simp [PartialRun.observed], List.nil_sublist _⟩
  | cons call calls ih =>
      cases hs : step c call with
      | error fault => exact ⟨[], by simp [PartialRun.observed, hs], List.nil_sublist _⟩
      | ok c' =>
          have hnote : ∃ now, noteSend sends c call c' = sends ++ now ∧
              now.Sublist call.readings := by
            cases call with
            | sendPacket gate schedule send =>
                unfold noteSend
                dsimp only
                split
                · exact ⟨[], by simp, List.nil_sublist _⟩
                · exact ⟨[send], rfl, by simp [ClientCall.readings]⟩
            | receivePacket echo first second => exact ⟨[], by simp [noteSend], List.nil_sublist _⟩
          obtain ⟨now, hnow, hsub⟩ := hnote
          obtain ⟨later, hlater, hrest⟩ := ih c' (sends ++ now)
          refine ⟨now ++ later, ?_, ?_⟩
          · rw [PartialRun.observed_cons_of_ok hs, hnow, hlater, List.append_assoc]
          · rw [List.flatMap_cons]
            exact hsub.append hrest

theorem sendReadings_sublist (start : TimeOfDay) (stream : Nat → Nat) (calls : List ClientCall) :
    (sendReadings start stream calls).Sublist (calls.flatMap ClientCall.readings) := by
  obtain ⟨later, hlater, hsub⟩ := observed_noteSend (create start stream) [] calls
  unfold sendReadings
  rw [hlater]
  exact hsub

/-! ## Tracked packets carry their send times -/

/-- One reading for every packet, and the map holds their times. -/
structure SentWith (c : Client) (sends : List TimeOfDay) : Prop where
  atRest : c.connection.AtRest
  count : sends.length = c.connection.recentPacketNumber
  sentTime : ∀ n info, c.connection.map.info? n = some info →
    1 ≤ n ∧ ∃ send, sends[n - 1]? = some send ∧ info.sentTime = send.now

theorem SentWith.of_same (h : c.SentWith sends) (hsame : c'.connection = c.connection) :
    c'.SentWith sends :=
  ⟨hsame ▸ h.atRest, hsame ▸ h.count, hsame ▸ h.sentTime⟩

theorem SentWith.send {length : PacketLength} {send : TimeOfDay} (h : c.SentWith sends)
    (hs : Connection.step c.connection (.send length send.now) = .ok c'.connection) :
    c'.SentWith (sends ++ [send]) := by
  have houtcome := Connection.step_outcome h.atRest hs
  have hcount : c'.connection.recentPacketNumber = c.connection.recentPacketNumber + 1 := by
    have hconnection := Except.ok.inj hs
    rw [← hconnection]
    rfl
  refine ⟨houtcome.atRest h.atRest, by simp [h.count, hcount], fun n info hinfo => ?_⟩
  rcases houtcome.info?_origin h.atRest hinfo with
    ⟨old, hold, _, htime⟩ | ⟨length', sendTime, hop, hn, hnew⟩
  · obtain ⟨hpos, earlier, hget, hsent⟩ := h.sentTime n old hold
    have hlt : n - 1 < sends.length := (List.getElem?_eq_some_iff.mp hget).1
    refine ⟨hpos, earlier, ?_, by rw [← htime, hsent]⟩
    rw [List.getElem?_append_left hlt, hget]
  · cases hop
    have hnext := h.atRest.next
    have hcounted := h.count
    refine ⟨by omega, send, ?_, by rw [hnew]; rfl⟩
    rw [show n - 1 = sends.length by omega, List.getElem?_append_right (Nat.le_refl _)]
    simp

theorem SentWith.other {op : Operation} (h : c.SentWith sends)
    (hop : ∀ length sendTime, op ≠ .send length sendTime)
    (hs : Connection.step c.connection op = .ok c'.connection) : c'.SentWith sends := by
  have houtcome := Connection.step_outcome h.atRest hs
  have hcount := houtcome.recentPacketNumber_eq hop
  refine ⟨houtcome.atRest h.atRest, h.count.trans hcount.symm, fun n info hinfo => ?_⟩
  rcases houtcome.info?_origin h.atRest hinfo with
    ⟨old, hold, _, htime⟩ | ⟨length, sendTime, hsend, _⟩
  · obtain ⟨hpos, earlier, hget, hsent⟩ := h.sentTime n old hold
    exact ⟨hpos, earlier, hget, by rw [← htime, hsent]⟩
  · exact absurd hsend (hop length sendTime)

theorem SentWith.step (h : c.SentWith sends) (hs : step c call = .ok c') :
    c'.SentWith (noteSend sends c call c') := by
  have hperforms := (step_spec hs).1
  cases call with
  | sendPacket gate schedule send =>
      cases hop : c.operation? (.sendPacket gate schedule send) with
      | none =>
          rw [hop] at hperforms
          have hsame : c'.connection = c.connection := hperforms
          unfold noteSend
          rw [hsame]
          dsimp only
          rw [if_pos rfl]
          exact h.of_same hsame
      | some op =>
          rw [hop] at hperforms
          have hsend : op = .send defaultPacketLength send.now := by
            simp only [operation?] at hop
            split at hop
            · exact (Option.some.inj hop).symm
            · cases hop
          subst hsend
          have hnew := h.send hperforms
          have hcount := hnew.count
          have hold := h.count
          rw [List.length_append, List.length_singleton] at hcount
          unfold noteSend
          dsimp only
          rw [if_neg (by omega)]
          exact hnew
  | receivePacket echo first second =>
      cases hop : c.operation? (.receivePacket echo first second) with
      | none =>
          rw [hop] at hperforms
          exact h.of_same hperforms
      | some op =>
          rw [hop] at hperforms
          apply h.other _ hperforms
          rintro length sendTime rfl
          cases echo with
          | some n => cases hop
          | none =>
              simp only [operation?] at hop
              split at hop <;> cases hop

theorem exec_sentWith (hrun : exec (create start stream) calls = .ok c) :
    c.SentWith (sendReadings start stream calls) := by
  have hcreate : (create start stream).SentWith [] :=
    ⟨Connection.create_atRest _, rfl, by
      simp [create, bbr2Connection, Connection.create, QuicUnackedPacketMap.info?]⟩
  have halong : PartialRun.Along Client.step (fun _ _ => True) (create start stream) calls := by
    rw [PartialRun.along_iff_prefix]
    exact fun _ _ _ _ _ _ => trivial
  exact PartialRun.invariant_observed (fun _ _ _ _ h _ hs => h.step hs) hcreate halong hrun

/-! ## The law of the clock -/

/-- What the time of the sender promises in a run: every two readings keep their order and their
distance, the sample of an acked packet is the time that has passed since it was sent, and the
send times are sorted by packet number. -/
structure ClockLaw (start : TimeOfDay) (stream : Nat → Nat) (calls : List ClientCall) : Prop where
  readings : (readings start calls).Pairwise Keeps
  sendDelta : ∀ pre n first second post c sendDelta,
    calls = pre ++ .receivePacket (some n) first second :: post →
    exec (create start stream) pre = .ok c →
    c.connection.manager.sendDelta? n first.now = some sendDelta →
    0 ≤ sendDelta ∧ ∃ send, (sendReadings start stream pre)[n - 1]? = some send ∧
      sendDelta = send.elapsed first
  sendTimes : (sendReadings start stream calls).Pairwise fun send send' => send.now ≤ send'.now
  tracked : ∀ pre post c n n' info info', calls = pre ++ post →
    exec (create start stream) pre = .ok c →
    n ≤ n' → c.connection.map.info? n = some info → c.connection.map.info? n' = some info' →
    info.sentTime ≤ info'.sentTime

/-- The law holds in a run exactly when all its readings lie in one block of seconds. -/
theorem clockLaw_iff (start : TimeOfDay) (stream : Nat → Nat) (calls : List ClientCall)
    (horder : (readings start calls).Pairwise Precedes)
    (hvalid : ∀ r ∈ readings start calls, r.IsValid) :
    ClockLaw start stream calls ↔ ∀ r ∈ readings start calls, r.block = start.block := by
  constructor
  · intro hlaw r hmem
    rcases List.mem_cons.mp hmem with rfl | hlater
    · rfl
    · have hkeeps := (List.pairwise_cons.mp hlaw.readings).1 r hlater
      have hprecedes := (List.pairwise_cons.mp horder).1 r hlater
      exact (keeps_iff hprecedes (hvalid start List.mem_cons_self)).mp hkeeps
  · intro hblock
    have hreadings : (readings start calls).Pairwise Keeps := by
      refine horder.imp_of_mem fun {r₁ r₂} h₁ h₂ hprecedes => ?_
      rw [keeps_iff hprecedes (hvalid r₁ h₁), hblock r₁ h₁, hblock r₂ h₂]
    have hlater : (calls.flatMap ClientCall.readings).Pairwise Keeps :=
      (List.pairwise_cons.mp hreadings).2
    have hsends : ∀ pre post, calls = pre ++ post →
        (sendReadings start stream pre).Pairwise Keeps := by
      intro pre post hsplit
      rw [hsplit, List.flatMap_append] at hlater
      exact (List.pairwise_append.mp hlater).1.sublist (sendReadings_sublist start stream pre)
    refine ⟨hreadings, ?_, ?_, ?_⟩
    · intro pre n first second post c sendDelta hsplit hrun hdelta
      obtain ⟨info, hinfo, heq⟩ := QuicSentPacketManager.sendDelta?_some hdelta
      obtain ⟨_, send, hget, hsent⟩ := (exec_sentWith hrun).sentTime n info hinfo
      have hmem : send ∈ pre.flatMap ClientCall.readings :=
        (sendReadings_sublist start stream pre).subset (List.mem_of_getElem? hget)
      have hkeeps : send.Keeps first := by
        rw [hsplit, List.flatMap_append] at hlater
        exact (List.pairwise_append.mp hlater).2.2 send hmem first
          (by simp [ClientCall.readings])
      have hexact : sendDelta = send.elapsed first := by
        rw [heq, hsent]
        exact hkeeps.2
      have hforward := hkeeps.1
      exact ⟨by omega, send, hget, hexact⟩
    · exact (hsends calls [] (by simp)).imp fun hkeeps => hkeeps.1
    · intro pre post c n n' info info' hsplit hrun hle hinfo hinfo'
      obtain ⟨hpos, send, hget, hsent⟩ := (exec_sentWith hrun).sentTime n info hinfo
      obtain ⟨_, send', hget', hsent'⟩ := (exec_sentWith hrun).sentTime n' info' hinfo'
      rw [hsent, hsent']
      by_cases heq : n = n'
      · subst heq
        cases hget.symm.trans hget'
        exact Int.le_refl _
      · obtain ⟨hlt, hsend⟩ := List.getElem?_eq_some_iff.mp hget
        obtain ⟨hlt', hsend'⟩ := List.getElem?_eq_some_iff.mp hget'
        have hkeeps := List.pairwise_iff_getElem.mp (hsends pre post hsplit) (n - 1) (n' - 1) hlt
          hlt' (by omega)
        rw [hsend, hsend'] at hkeeps
        exact hkeeps.1

/-- Two packets and an echo within a second. -/
theorem clockLaw_of_one_second :
    ClockLaw ⟨99998, 0⟩ (fun _ => 0)
      [.sendPacket ⟨99998, 10⟩ ⟨99998, 11⟩ ⟨99998, 12⟩,
        .receivePacket (some 1) ⟨99998, 900000⟩ ⟨99998, 900001⟩,
        .sendPacket ⟨99998, 950000⟩ ⟨99998, 950001⟩ ⟨99998, 950002⟩] :=
  (clockLaw_iff _ _ _ (by decide) (by decide)).mpr (by decide)

/-- A packet is sent just before the seconds reach 100000 and acked just behind. -/
def callsAcrossBlocks : List ClientCall :=
  [.sendPacket ⟨99999, 900000⟩ ⟨99999, 900001⟩ ⟨99999, 900002⟩,
    .receivePacket (some 1) ⟨100000, 2⟩ ⟨100000, 3⟩]

/-- The ack after 100 ms yields a sample of minus 99999.9 seconds. -/
theorem time_runs_backwards :
    (readings ⟨99999, 0⟩ callsAcrossBlocks).Pairwise Precedes ∧
      (∀ r ∈ readings ⟨99999, 0⟩ callsAcrossBlocks, r.IsValid) ∧
      (∃ c, exec (create ⟨99999, 0⟩ fun _ => 0) (callsAcrossBlocks.take 1) = .ok c ∧
        c.connection.manager.sendDelta? 1 (TimeOfDay.now ⟨100000, 2⟩) = some (-99999900000)) ∧
      ¬ ClockLaw ⟨99999, 0⟩ (fun _ => 0) callsAcrossBlocks := by
  refine ⟨by decide, by decide, ?_, ?_⟩
  · obtain ⟨c, hrun, hdelta⟩ :=
      PartialRun.exists_of_endsIn
        (p := fun c : Client => decide (c.connection.manager.sendDelta? 1
          (TimeOfDay.now ⟨100000, 2⟩) = some (-99999900000)))
        (r := exec (create ⟨99999, 0⟩ fun _ => 0) (callsAcrossBlocks.take 1)) (by decide +kernel)
    exact ⟨c, hrun, of_decide_eq_true hdelta⟩
  · intro hlaw
    have hkeeps : Keeps ⟨99999, 900002⟩ ⟨100000, 2⟩ := by
      have hlater := (List.pairwise_cons.mp hlaw.readings).2
      exact List.pairwise_iff_getElem.mp hlater 2 3 (by decide) (by decide) (by decide)
    exact absurd hkeeps.1 (by decide)

end Client

end BbrChrome
