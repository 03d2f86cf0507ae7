import BbrChrome.Quic.ConnectionInvariant

/-!
# Lookups of acked packets

The deque is indexed at `packetNumber - leastUnacked` without a check. An echo whose
packet lies below every packet in flight has lost its slot, and its lookup leaves
the deque.
-/

namespace BbrChrome

namespace Connection

variable {σ : Type} [SendAlgorithmInterface σ] {c c' : Connection σ} {op : Operation}

/-- Some packet up to the acked one is still in flight. -/
def Resolvable (c : Connection σ) : Operation → Prop
  | .ack n _ _ => ∃ k ≤ n, c.map.InFlight k
  | _ => True

instance (c : Connection σ) : (op : Operation) → Decidable (c.Resolvable op)
  | .ack n _ _ => Nat.decidableExistsLE n
  | .send .. => instDecidableTrue
  | .timeout .. => instDecidableTrue

omit [SendAlgorithmInterface σ] in
theorem AtRest.info?_iff (h : c.AtRest) {n ackReceiveTime now}
    (hv : c.Valid (.ack n ackReceiveTime now)) :
    (∃ info, c.map.info? n = some info) ↔ ∃ k ≤ n, c.map.InFlight k := by
  have hn : n < c.map.nextNumber := by
    rw [h.next]
    exact Nat.lt_succ_of_le hv.2
  rw [← h.manager.least_le_iff hn]
  constructor
  · rintro ⟨info, hi⟩
    exact (QuicUnackedPacketMap.range_of_info hi).1
  · exact fun hle => QuicUnackedPacketMap.exists_info hle hn

/-- A step from a state at rest fails exactly when it acks a packet without a slot. -/
theorem step_ok_iff (h : c.AtRest) (hv : c.Valid op) :
    (∃ c', step c op = .ok c') ↔ c.Resolvable op := by
  constructor
  · rintro ⟨c', hs⟩
    cases step_outcome h hs with
    | ack hi ackReceiveTime now => exact (h.info?_iff hv).mp ⟨_, hi⟩
    | _ => trivial
  · intro hr
    obtain ⟨c', ho⟩ := h.exists_outcome op fun n t now heq => by
      subst op
      exact (h.info?_iff hv).mpr hr
    exact ⟨c', ho.step_eq h⟩

/-- The only fault there is: the lookup of an ack outside the deque. -/
theorem step_error (h : c.AtRest) {e : Fault} (hs : step c op = .error e) :
    ∃ n least size, e = .outOfRange n least size := by
  by_cases hack : ∃ n t now, op = .ack n t now ∧ c.map.info? n = none
  · rcases hack with ⟨n, t, now, rfl, hn⟩
    rw [step, ack_of_gone h.manager hn] at hs
    cases hs
    exact ⟨_, _, _, rfl⟩
  · obtain ⟨c', ho⟩ := h.exists_outcome op fun n t now heq => by
      cases hi : c.map.info? n with
      | none => exact absurd ⟨n, t, now, heq, hi⟩ hack
      | some info => exact ⟨info, rfl⟩
    rw [ho.step_eq h] at hs
    cases hs

theorem exec_error {sendAlgorithm : σ} {ops : List Operation} {e : Fault}
    (hrun : exec (create sendAlgorithm) ops = .error e) :
    ∃ n least size, e = .outOfRange n least size := by
  obtain ⟨c, op, ⟨pre, hpre⟩, hs⟩ := PartialRun.exec_error_split hrun
  exact step_error (exec_atRest hpre) hs

/-- A run never looks up a slot outside the deque exactly when each of its acks names
a packet at or above some packet that is then in flight. -/
theorem lookups_in_range_iff (sendAlgorithm : σ) (ops : List Operation)
    (hv : Along Valid (create sendAlgorithm) ops) :
    (∀ n least size, exec (create sendAlgorithm) ops ≠ .error (.outOfRange n least size)) ↔
      Along Resolvable (create sendAlgorithm) ops := by
  have hok : (∃ c, exec (create sendAlgorithm) ops = .ok c) ↔
      Along Resolvable (create sendAlgorithm) ops :=
    PartialRun.exec_ok_iff_along (fun _ _ _ h _ hs => step_atRest h hs)
      (fun _ _ h hv => step_ok_iff h hv) (create_atRest sendAlgorithm) hv
  rw [← hok]
  constructor
  · intro hno
    cases hrun : exec (create sendAlgorithm) ops with
    | ok c => exact ⟨c, rfl⟩
    | error e =>
        obtain ⟨n, least, size, rfl⟩ := exec_error hrun
        exact absurd hrun (hno n least size)
  · rintro ⟨c, hrun⟩ n least size herr
    rw [hrun] at herr
    cases herr

theorem lookups_in_range_of_reorderedRun :
    Along Resolvable (bbr2Connection 1 fun _ => 0) reorderedRun ∧
      ∀ n least size,
        exec (bbr2Connection 1 fun _ => 0) reorderedRun ≠ .error (.outOfRange n least size) := by
  have hresolvable : Along Resolvable (bbr2Connection 1 fun _ => 0) reorderedRun := by
    decide +kernel
  exact ⟨hresolvable, (lookups_in_range_iff _ reorderedRun (by decide +kernel)).mpr hresolvable⟩

/-- The second echo of packet 1 finds the deque empty and its front at number 2. -/
theorem second_echo_out_of_range :
    Along Valid (bbr2Connection 1 fun _ => 0)
        [.send defaultPacketLength 1000, .ack 1 51000 51001, .ack 1 52000 52001] ∧
      exec (bbr2Connection 1 fun _ => 0)
        [.send defaultPacketLength 1000, .ack 1 51000 51001, .ack 1 52000 52001] =
          .error (.outOfRange 1 2 0) :=
  ⟨by decide +kernel, by rfl⟩

end Connection

end BbrChrome
