import Mathlib.Data.List.Perm.Basic

/-!
# Channels that lose, repeat and reorder

The messages under way form a list in the order in which they were posted. A poll finds any one
of them or none, and the medium may drop any one of them or repeat it. A medium that keeps the
order hands over the oldest message.
-/

namespace Channel

variable {α : Type*}

/-- The message that a poll finds. -/
def arrived (messages : List α) (arrival : Option Nat) : Option α := arrival.bind (messages[·]?)

/-- The messages that stay under way when one is handed over or dropped. -/
def remaining (messages : List α) : Option Nat → List α
  | some i => messages.eraseIdx i
  | none => messages

/-- Post a copy of the message at a position, if there is one. -/
def duplicate (messages : List α) (i : Nat) : List α := messages ++ messages[i]?.toList

variable {messages : List α} {message : α} {arrival : Option Nat} {i : Nat}

theorem mem_of_arrived (h : arrived messages arrival = some message) : message ∈ messages := by
  obtain ⟨i, _, hi⟩ := Option.bind_eq_some_iff.mp h
  exact List.mem_of_getElem? hi

theorem remaining_sublist : (remaining messages arrival).Sublist messages := by
  cases arrival with
  | none => exact List.Sublist.refl _
  | some i => exact List.eraseIdx_sublist messages i

theorem mem_of_mem_remaining (arrival : Option Nat) (h : message ∈ remaining messages arrival) :
    message ∈ messages :=
  remaining_sublist.subset h

/-- The message that leaves and the ones that stay are the messages that were there. -/
theorem arrived_perm (messages : List α) (arrival : Option Nat) :
    messages.Perm ((arrived messages arrival).toList ++ remaining messages arrival) := by
  cases arrival with
  | none => exact List.Perm.refl _
  | some i =>
      simp only [arrived, remaining, Option.bind_some]
      by_cases hlt : i < messages.length
      · rw [List.getElem?_eq_getElem hlt]
        exact (List.getElem_cons_eraseIdx_perm hlt).symm
      · rw [List.getElem?_eq_none (Nat.le_of_not_lt hlt),
          List.eraseIdx_of_length_le (Nat.le_of_not_lt hlt)]
        exact List.Perm.refl _

theorem arrived_perm_map {β : Type*} (f : α → β) (before messages after : List α)
    (arrival : Option Nat) :
    ((before ++ messages ++ after).map f).Perm
      ((before ++ remaining messages arrival ++ after).map f ++
        ((arrived messages arrival).map f).toList) := by
  have hsplit := ((arrived_perm messages arrival).append_left before).append_right after
  have hswap : (before ++ ((arrived messages arrival).toList ++ remaining messages arrival) ++
      after).Perm (before ++ remaining messages arrival ++ after ++
        (arrived messages arrival).toList) := by
    simp only [List.append_assoc]
    rw [← List.append_assoc (remaining messages arrival)]
    exact List.perm_append_comm.append_left before
  rw [Option.toList_map, ← List.map_append]
  exact (hsplit.trans hswap).map f

theorem remaining_of_arrived_none (h : arrived messages arrival = none) :
    remaining messages arrival = messages := by
  cases arrival with
  | none => rfl
  | some i => exact List.eraseIdx_of_length_le (List.getElem?_eq_none_iff.mp h)

/-- In order, the messages are handed over from the front. -/
theorem eq_of_arrived_first (hfirst : ∀ i, arrival = some i → i = 0) :
    messages = (arrived messages arrival).toList ++ remaining messages arrival := by
  cases arrival with
  | none => rfl
  | some i =>
      cases hfirst i rfl
      cases messages with
      | nil => rfl
      | cons first later => rfl

theorem mem_of_mem_duplicate (h : message ∈ duplicate messages i) : message ∈ messages := by
  rcases List.mem_append.mp h with h | h
  · exact h
  · exact List.mem_of_getElem? (Option.mem_toList.mp h)

end Channel
