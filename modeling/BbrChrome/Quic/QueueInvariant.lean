import BbrChrome.Quic.PacketNumberIndexedQueue
import Mathlib.Data.List.Basic

/-!
# Invariant of the indexed queue

The counter of a queue counts its present entries and the front entry is present, so a
queue that looks empty is empty. `Holds` says of every present entry that it satisfies a
predicate.
-/

namespace BbrChrome

namespace PacketNumberIndexedQueue

variable {α : Type} {q : PacketNumberIndexedQueue α} {n : Nat} {e : α} {P Q : α → Prop}

def Holds (P : α → Prop) (q : PacketNumberIndexedQueue α) : Prop :=
  ∀ e, some e ∈ q.entries → P e

theorem Holds.mono (h : q.Holds P) (hpq : ∀ e, P e → Q e) : q.Holds Q :=
  fun e he => hpq e (h e he)

theorem mem_of_getEntry {packetNumber : QuicPacketNumber} (h : q.getEntry packetNumber = some e) :
    some e ∈ q.entries := by
  unfold getEntry at h
  split at h
  · cases h
  · split at h
    · cases h
    · split at h
      · cases h
      · exact List.mem_of_getElem? (Option.join_eq_some_iff.mp h)

theorem Holds.getEntry {packetNumber : QuicPacketNumber} (h : q.Holds P)
    (he : q.getEntry packetNumber = some e) : P e :=
  h e (mem_of_getEntry he)

theorem Holds.emplace {packetNumber : QuicPacketNumber} (h : q.Holds P) (he : P e) :
    (q.emplace packetNumber e).1.Holds P := by
  have hnew : ∀ (holes : List (Option α)), (∀ x ∈ holes, x = none) → ∀ a,
      some a ∈ q.entries ++ holes ++ [some e] → P a := by
    intro holes hholes a ha
    rw [List.mem_append, List.mem_append] at ha
    rcases ha with (ha | ha) | ha
    · exact h a ha
    · have hnone := hholes _ ha
      cases hnone
    · cases List.mem_singleton.mp ha
      exact he
  unfold PacketNumberIndexedQueue.emplace
  split
  · exact h
  · split
    · intro a ha
      exact hnew [] (by simp) a (by simpa using ha)
    · split
      · exact h
      · split
        · exact h
        · exact hnew _ fun x hx => List.eq_of_mem_replicate hx

theorem mem_popUpTo {es : List (Option α)} {present first : Nat} {x : Option α}
    (hx : x ∈ (popUpTo n es present first).entries) : x ∈ es := by
  induction es generalizing present first with
  | nil => simp [popUpTo] at hx
  | cons a es ih =>
      unfold popUpTo at hx
      split at hx
      · exact List.mem_cons_of_mem _ (ih hx)
      · exact hx

theorem mem_cleanup {es : List (Option α)} {present : Nat} {first : QuicPacketNumber} {x : Option α}
    (hx : x ∈ (cleanup es present first).entries) : x ∈ es := by
  induction es generalizing first with
  | nil => simp [cleanup] at hx
  | cons a es ih =>
      cases a with
      | none => exact List.mem_cons_of_mem _ (ih hx)
      | some a => exact hx

theorem Holds.removeUpTo (h : q.Holds P) (n : Nat) : (q.removeUpTo n).Holds P := by
  intro e he
  unfold PacketNumberIndexedQueue.removeUpTo at he
  have hmem := mem_cleanup he
  revert hmem
  split
  · exact fun hmem => h e hmem
  · exact fun hmem => h e (mem_popUpTo hmem)

/-! ## Well-formed queues -/

def presentCount (es : List (Option α)) : Nat := es.countP (·.isSome)

/-- The counter is right, and the front of a deque that is not empty is present and numbered. -/
structure WellFormed (q : PacketNumberIndexedQueue α) : Prop where
  present : q.numberOfPresentEntries = presentCount q.entries
  front : ∀ e es, q.entries = e :: es → e.isSome = true ∧ ∃ first, q.firstPacket = .number first

theorem wellFormed_empty : WellFormed ({} : PacketNumberIndexedQueue α) :=
  ⟨rfl, by simp⟩

theorem WellFormed.isEmpty_iff (h : q.WellFormed) : q.isEmpty = true ↔ q.entries = [] := by
  have hpresent := h.present
  cases hes : q.entries with
  | nil =>
      rw [hes] at hpresent
      simp [isEmpty, hpresent, presentCount]
  | cons a es =>
      obtain ⟨hsome, _⟩ := h.front a es hes
      rw [hes, presentCount, List.countP_cons_of_pos hsome] at hpresent
      have hpos : q.numberOfPresentEntries ≠ 0 := by omega
      simp [isEmpty, hpos]

theorem WellFormed.getEntry_emplace (h : q.WellFormed)
    (haccepted : (q.emplace (.number n) e).2 = true) :
    (q.emplace (.number n) e).1.getEntry (.number n) = some e := by
  unfold PacketNumberIndexedQueue.emplace at haccepted ⊢
  simp only at haccepted ⊢
  cases hempty : q.isEmpty with
  | true =>
      have hnil := h.isEmpty_iff.mp hempty
      simp [getEntry, isEmpty, hnil]
  | false =>
      have hne : q.entries ≠ [] := by
        intro hnil
        rw [h.isEmpty_iff.mpr hnil] at hempty
        cases hempty
      obtain ⟨a, es, hes⟩ := List.exists_cons_of_ne_nil hne
      obtain ⟨_, first, hfirst⟩ := h.front a es hes
      simp only [hempty, Bool.false_eq_true, if_false, hfirst] at haccepted ⊢
      by_cases hle : n ≤ first + q.entries.length - 1
      · rw [if_pos hle] at haccepted
        cases haccepted
      · rw [if_neg hle]
        have hlt : ¬ n < first := by omega
        have hlast : (q.entries ++ List.replicate (n - first - q.entries.length) none ++
            [some e])[n - first]? = some (some e) := by
          rw [List.getElem?_append_right (by rw [List.length_append, List.length_replicate]; omega),
            List.length_append, List.length_replicate,
            show n - first - (q.entries.length + (n - first - q.entries.length)) = 0 by omega]
          rfl
        rw [List.append_assoc] at hlast
        simp [getEntry, isEmpty, hlt, hlast]

theorem WellFormed.emplace {packetNumber : QuicPacketNumber} (h : q.WellFormed) :
    (q.emplace packetNumber e).1.WellFormed := by
  unfold PacketNumberIndexedQueue.emplace
  split
  · exact h
  · rename_i n
    split
    · rename_i hempty
      have hnil := h.isEmpty_iff.mp hempty
      exact ⟨by simp [hnil, presentCount], by simp [hnil]⟩
    · rename_i hne
      split
      · exact h
      · rename_i first hfirst
        split
        · exact h
        · refine ⟨?_, fun a es hes => ⟨?_, first, hfirst⟩⟩
          · have hholes : presentCount (List.replicate (n - first - q.entries.length)
                (none : Option α)) = 0 := by
              simp [presentCount, List.countP_replicate]
            simp only [h.present]
            unfold presentCount at hholes ⊢
            simp [List.countP_append, hholes]
          · cases hold : q.entries with
            | nil =>
                exact absurd (h.isEmpty_iff.mpr hold) hne
            | cons b bs =>
                simp only [hold, List.cons_append, List.cons.injEq] at hes
                rw [← hes.1]
                exact (h.front b bs hold).1

theorem cleanup_wellFormed {es : List (Option α)} {present first : Nat}
    (hpresent : present = presentCount es) : (cleanup es present (.number first)).WellFormed := by
  induction es generalizing first with
  | nil => exact ⟨hpresent, by simp [cleanup]⟩
  | cons a es ih =>
      cases a with
      | none =>
          have hrest : present = presentCount es := by
            rw [hpresent, presentCount, presentCount, List.countP_cons_of_neg (by simp)]
          exact ih hrest
      | some a =>
          refine ⟨hpresent, fun b bs hbs => ?_⟩
          simp only [cleanup, List.cons.injEq] at hbs
          rw [← hbs.1]
          exact ⟨rfl, first, rfl⟩

theorem popUpTo_spec (es : List (Option α)) (first : Nat) :
    ∃ rest number, popUpTo n es (presentCount es) first =
      ⟨rest, presentCount rest, .number number⟩ := by
  induction es generalizing first with
  | nil => exact ⟨[], first, rfl⟩
  | cons a es ih =>
      unfold popUpTo
      split
      · have hcount : (if a.isSome then presentCount (a :: es) - 1 else presentCount (a :: es)) =
            presentCount es := by
          cases a <;> simp [presentCount]
        rw [hcount]
        exact ih (first + 1)
      · exact ⟨a :: es, first, rfl⟩

theorem WellFormed.removeUpTo (h : q.WellFormed) (n : Nat) : (q.removeUpTo n).WellFormed := by
  unfold PacketNumberIndexedQueue.removeUpTo
  cases hfirst : q.firstPacket with
  | uninitialized =>
      have hnil : q.entries = [] := by
        cases hes : q.entries with
        | nil => rfl
        | cons a es =>
            obtain ⟨_, first, hnumber⟩ := h.front a es hes
            rw [hfirst] at hnumber
            cases hnumber
      have hzero : q.numberOfPresentEntries = 0 := by
        rw [h.present, hnil]
        rfl
      simp only [hnil, cleanup, hzero]
      exact wellFormed_empty
  | number first =>
      obtain ⟨rest, number, hpop⟩ := popUpTo_spec (n := n) q.entries first
      simp only [h.present, hpop]
      exact cleanup_wellFormed rfl

end PacketNumberIndexedQueue

end BbrChrome
