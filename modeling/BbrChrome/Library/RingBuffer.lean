import Mathlib.Data.List.Basic
import Mathlib.Tactic.Common

/-!
# Lists in ring buffers

A list lies in a buffer of cells from a start cell on and goes on at the first cell behind the
last one. The rules say which write, which release and which move of the start keeps it there.
-/

namespace Ring

variable {α : Type*} {cells cells' : List (Option α)} {c start first last i j k n : Nat}
  {l : List α} {v : α}

/-! ## Places -/

/-- The cell `i` behind `start` in a buffer of `c` cells. -/
def place (c start i : Nat) : Nat :=
  if start + i < c then start + i else start + i - c

theorem place_lt (hs : start < c) (hi : i ≤ c) : place c start i < c := by
  unfold place
  split <;> omega

theorem place_zero (hs : start < c) : place c start 0 = start := by
  unfold place
  rw [if_pos (by omega)]
  omega

theorem place_from_zero (hi : i < c) : place c 0 i = i := by
  unfold place
  rw [if_pos (by omega)]
  omega

theorem place_inj (hi : i < c) (hj : j < c) :
    place c start i = place c start j ↔ i = j := by
  unfold place
  split <;> split <;> omega

theorem place_place (hs : start < c) (hij : i + j ≤ c) :
    place c (place c start i) j = place c start (i + j) := by
  unfold place
  split <;> split <;> split <;> omega

/-- Places counted from the cell before the start, which is the last one behind it. -/
theorem place_before (hs : start < c) (hi : i < c) :
    place c (place c start (c - 1)) (i + 1) = place c start i := by
  unfold place
  split <;> split <;> split <;> omega

theorem place_eq_mod (hs : start < c) (hi : i ≤ c) : place c start i = (start + i) % c := by
  unfold place
  split
  · rw [Nat.mod_eq_of_lt (by omega)]
  · rw [Nat.mod_eq_sub_mod (by omega), Nat.mod_eq_of_lt (by omega)]

/-! ## Arcs -/

/-- The cell is one of those from `first` up to `last`, around the end of the buffer. -/
def InArc (first last k : Nat) : Prop :=
  if first ≤ last then first ≤ k ∧ k < last else first ≤ k ∨ k < last

theorem inArc_place_iff (start : Nat) (hij : i ≤ j) (hj : j < c) (hk : k < c) :
    InArc (place c start i) (place c start j) (place c start k) ↔ i ≤ k ∧ k < j := by
  unfold InArc place
  split <;> split <;> split <;> split <;> omega

/-! ## Lists -/

/-- The buffer holds the list from the start cell on. -/
def Holds (cells : List (Option α)) (start : Nat) (l : List α) : Prop :=
  ∀ i v, l[i]? = some v → cells[place cells.length start i]? = some (some v)

theorem holds_nil : Holds cells start ([] : List α) := by
  intro i v h
  simp at h

theorem Holds.lt_length (h : l[i]? = some v) : i < l.length :=
  (List.getElem?_eq_some_iff.mp h).1

theorem Holds.read (h : Holds cells start l) (hi : i < l.length) :
    (cells[place cells.length start i]?).join = l[i]? := by
  have hget : l[i]? = some l[i] := List.getElem?_eq_getElem hi
  rw [h i l[i] hget, hget]
  rfl

/-- Only the cells of the list matter. -/
theorem Holds.frame (h : Holds cells start l) (hlen : cells'.length = cells.length)
    (hsame : ∀ i, i < l.length →
      cells'[place cells.length start i]? = cells[place cells.length start i]?) :
    Holds cells' start l := by
  intro i v hget
  rw [hlen, hsame i (Holds.lt_length hget)]
  exact h i v hget

theorem Holds.pushBack (h : Holds cells start l) (hs : start < cells.length)
    (hroom : l.length < cells.length) :
    Holds (cells.set (place cells.length start l.length) (some v)) start (l ++ [v]) := by
  intro i w hget
  rw [List.length_set]
  have hi : i < l.length + 1 := by simpa using Holds.lt_length hget
  by_cases hlast : i = l.length
  · subst hlast
    have hw : v = w := by simpa using hget
    rw [List.getElem?_set_self (place_lt hs (by omega)), hw]
  · have hne : place cells.length start l.length ≠ place cells.length start i := by
      intro heq
      have := (place_inj hroom (by omega)).mp heq
      omega
    rw [List.getElem?_set_ne hne]
    rw [List.getElem?_append_left (by omega)] at hget
    exact h i w hget

theorem Holds.pushFront (h : Holds cells start l) (hs : start < cells.length)
    (hroom : l.length < cells.length) :
    Holds (cells.set (place cells.length start (cells.length - 1)) (some v))
      (place cells.length start (cells.length - 1)) (v :: l) := by
  intro i w hget
  rw [List.length_set]
  have hfront := place_lt hs (Nat.sub_le cells.length 1)
  cases i with
  | zero =>
      have hw : v = w := by simpa using hget
      rw [place_zero hfront, List.getElem?_set_self hfront, hw]
  | succ i =>
      rw [List.getElem?_cons_succ] at hget
      have hi := Holds.lt_length hget
      have hback := place_before hs (show i < cells.length by omega)
      have hne : place cells.length start (cells.length - 1) ≠ place cells.length start i := by
        intro heq
        have := (place_inj (by omega) (by omega)).mp heq
        omega
      rw [hback, List.getElem?_set_ne hne]
      exact h i w hget

theorem Holds.drop (h : Holds cells start l) (hs : start < cells.length)
    (hfits : l.length ≤ cells.length) :
    Holds cells (place cells.length start n) (l.drop n) := by
  intro i v hget
  rw [List.getElem?_drop] at hget
  have hi := Holds.lt_length hget
  rw [place_place hs (by omega)]
  exact h (n + i) v hget

theorem Holds.take (h : Holds cells start l) : Holds cells start (l.take n) := by
  intro i v hget
  rw [List.getElem?_take] at hget
  split at hget
  · exact h i v hget
  · cases hget

theorem Holds.drop_of_release (h : Holds cells start l) (hs : start < cells.length)
    (hlen : cells'.length = cells.length) (hn : n ≤ l.length) (hfits : l.length < cells.length)
    (hsame : ∀ k, ¬ InArc start (place cells.length start n) k → cells'[k]? = cells[k]?) :
    Holds cells' (place cells.length start n) (l.drop n) := by
  apply (h.drop hs (by omega)).frame hlen
  intro i hi
  rw [List.length_drop] at hi
  apply hsame
  rw [place_place hs (by omega)]
  have harc := inArc_place_iff start (Nat.zero_le n) (show n < cells.length by omega)
    (show n + i < cells.length by omega)
  rw [place_zero hs] at harc
  rw [harc]
  omega

theorem Holds.take_of_release (h : Holds cells start l) (hlen : cells'.length = cells.length)
    (hn : n ≤ l.length) (hfits : l.length < cells.length)
    (hsame : ∀ k, ¬ InArc (place cells.length start n) (place cells.length start l.length) k →
      cells'[k]? = cells[k]?) :
    Holds cells' start (l.take n) := by
  apply h.take.frame hlen
  intro i hi
  rw [List.length_take] at hi
  apply hsame
  rw [inArc_place_iff start hn hfits (by omega)]
  omega

theorem holds_moved (h : Holds cells start l) (hfits : l.length ≤ cells'.length)
    (hsame : ∀ i, i < l.length → cells'[i]? = cells[place cells.length start i]?) :
    Holds cells' 0 l := by
  intro i v hget
  have hi := Holds.lt_length hget
  rw [place_from_zero (by omega), hsame i hi]
  exact h i v hget

end Ring
