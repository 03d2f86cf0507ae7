import Mathlib.Data.List.Basic
import Mathlib.Tactic.Common

/-!
# Character buffers

A buffer of bytes as C has it: its cells hold nothing until they are written, and an access
outside of it is a fault.
-/

namespace CharBuffer

inductive BufferFault
  | outOfBounds (index : Int)
  /-- A read of a cell that was never written. -/
  | uninitialized
  /-- A read that meets no zero byte. -/
  | unterminated
  | intOverflow
deriving DecidableEq, Repr

abbrev Buffer := List (Option UInt8)

def reserve (size : Nat) : Buffer := List.replicate size none

/-- `c[index] = byte`. -/
def write (c : Buffer) (index : Int) (byte : UInt8) : Except BufferFault Buffer :=
  if 0 ≤ index ∧ index < c.length then .ok (c.set index.toNat (some byte))
  else .error (.outOfBounds index)

/-- `std::string(c)`. -/
def readString : Buffer → Except BufferFault (List UInt8)
  | [] => .error .unterminated
  | none :: _ => .error .uninitialized
  | some byte :: c =>
      if byte = 0 then .ok []
      else
        match readString c with
        | .ok s => .ok (byte :: s)
        | .error fault => .error fault

variable {c c' front back : Buffer} {s : List UInt8} {index : Int}
  {byte : UInt8}

@[simp] theorem length_reserve (size : Nat) : (reserve size).length = size :=
  List.length_replicate

theorem write_outside (h : ¬ (0 ≤ index ∧ index < c.length)) :
    write c index byte = .error (.outOfBounds index) := if_neg h

theorem write_append (cell : Option UInt8) (back : Buffer) (byte : UInt8)
    (h : index = front.length) :
    write (front ++ cell :: back) index byte = .ok (front ++ some byte :: back) := by
  have hlen : (front ++ cell :: back).length = front.length + (back.length + 1) := by
    rw [List.length_append, List.length_cons]
  unfold write
  rw [if_pos (by omega), h, Int.toNat_natCast, List.set_append_right _ _ (Nat.le_refl _),
    Nat.sub_self, List.set_cons_zero]

theorem write_ok (h : write c index byte = .ok c') :
    c'.length = c.length ∧ 0 ≤ index ∧ index < c.length := by
  unfold write at h
  split at h
  · next hbounds =>
      cases h
      exact ⟨List.length_set .., hbounds⟩
  · cases h

theorem bind_ok {β γ : Type} {r : Except BufferFault β} {next : β → Except BufferFault γ} {v : γ}
    (h : (r >>= next) = .ok v) : ∃ u, r = .ok u ∧ next u = .ok v := by
  cases r with
  | error fault => cases h
  | ok u => exact ⟨u, rfl, h⟩

/-- The bytes before the first zero are the string. -/
theorem readString_terminated (h : 0 ∉ s) :
    readString (s.map some ++ some 0 :: back) = .ok s := by
  induction s with
  | nil => rfl
  | cons byte s ih =>
      have hbyte : byte ≠ 0 := fun hzero => h (hzero ▸ List.mem_cons_self)
      have hrest := ih (fun hmem => h (List.mem_cons_of_mem byte hmem))
      rw [List.map_cons, List.cons_append, readString, if_neg hbyte, hrest]

end CharBuffer
