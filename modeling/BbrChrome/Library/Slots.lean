import Mathlib.Algebra.Order.BigOperators.Group.List
import Mathlib.Algebra.Order.Ring.Nat
import Mathlib.Tactic.Common

/-!
# Consecutively numbered slots

A queue whose slots carry the numbers `first`, `first + 1`, ... is a list
together with its first number. `popWhile` clears it from the front and `weight`
adds up a measure over the slots that satisfy a predicate. The lemmas say how
both change when one slot is rewritten or a prefix is dropped.
-/

namespace Slots

variable {α : Type*}

/-- Drop slots from the front as long as `q` holds of their number and content. -/
def popWhile (q : Nat → α → Bool) : Nat → List α → Nat × List α
  | first, [] => (first, [])
  | first, a :: l => if q first a then popWhile q (first + 1) l else (first, a :: l)

theorem popWhile_spec (q : Nat → α → Bool) (first : Nat) (l : List α) :
    ∃ dropped, l = dropped ++ (popWhile q first l).2 ∧
      (popWhile q first l).1 = first + dropped.length ∧
      (∀ i a, dropped[i]? = some a → q (first + i) a = true) ∧
      (∀ a, (popWhile q first l).2.head? = some a → q (popWhile q first l).1 a = false) := by
  induction l generalizing first with
  | nil => exact ⟨[], by simp [popWhile], by simp [popWhile], by simp, by simp [popWhile]⟩
  | cons a l ih =>
      by_cases ha : q first a = true
      · obtain ⟨dropped, hl, hn, hq, hstop⟩ := ih (first + 1)
        refine ⟨a :: dropped, ?_, ?_, ?_, ?_⟩
        · simp only [popWhile, ha, if_true, List.cons_append]
          rw [← hl]
        · simp only [popWhile, ha, if_true, List.length_cons]
          omega
        · intro i b hb
          cases i with
          | zero =>
              simp only [List.getElem?_cons_zero, Option.some.injEq] at hb
              subst b
              exact ha
          | succ i =>
              have h := hq i b (by simpa using hb)
              rwa [show first + 1 + i = first + (i + 1) by omega] at h
        · simpa only [popWhile, ha, if_true] using hstop
      · refine ⟨[], ?_, ?_, by simp, ?_⟩
        · simp [popWhile, ha]
        · simp [popWhile, ha]
        · intro b hb
          simp only [popWhile, ha, Bool.false_eq_true, if_false] at hb ⊢
          simp only [List.head?_cons, Option.some.injEq] at hb
          subst b
          simpa using ha

/-- Clearing from the front never moves the number behind the last slot. -/
theorem popWhile_end (q : Nat → α → Bool) (first : Nat) (l : List α) :
    (popWhile q first l).1 + (popWhile q first l).2.length = first + l.length := by
  obtain ⟨dropped, hl, hn, _, _⟩ := popWhile_spec q first l
  have hlen := congrArg List.length hl
  rw [List.length_append] at hlen
  omega

theorem popWhile_getElem? (q : Nat → α → Bool) (first : Nat) (l : List α) (i : Nat) :
    (popWhile q first l).2[i]? = l[(popWhile q first l).1 - first + i]? := by
  obtain ⟨dropped, hl, hn, _, _⟩ := popWhile_spec q first l
  have hidx : (popWhile q first l).1 - first + i = dropped.length + i := by omega
  have hshift : (dropped ++ (popWhile q first l).2)[dropped.length + i]? =
      (popWhile q first l).2[i]? := by
    rw [List.getElem?_append_right (by omega)]
    congr 1
    omega
  rw [hidx, ← hshift, ← hl]

/-! ## Numbers -/

def numbered : Nat → List α → List (Nat × α)
  | _, [] => []
  | first, a :: l => (first, a) :: numbered (first + 1) l

theorem mem_numbered {first : Nat} {l : List α} {n : Nat} {a : α} :
    (n, a) ∈ numbered first l ↔ first ≤ n ∧ l[n - first]? = some a := by
  induction l generalizing first with
  | nil => simp [numbered]
  | cons b l ih =>
      rw [numbered, List.mem_cons, ih, Prod.mk.injEq]
      by_cases h : n = first
      · subst n
        simp only [Nat.sub_self, List.getElem?_cons_zero, Option.some.injEq, true_and,
          le_refl]
        constructor
        · rintro (h | h)
          · exact h.symm
          · omega
        · exact fun h => .inl h.symm
      · rw [or_iff_right (fun hb => h hb.1)]
        by_cases hlt : first < n
        · rw [show n - first = (n - (first + 1)) + 1 by omega, List.getElem?_cons_succ]
          simp only [Nat.succ_le_of_lt hlt, hlt.le, true_and]
        · omega

theorem pairwise_numbered (first : Nat) (l : List α) :
    (numbered first l).Pairwise (fun x y => x.1 < y.1) := by
  induction l generalizing first with
  | nil => exact List.Pairwise.nil
  | cons a l ih =>
      refine List.Pairwise.cons (fun y hy => ?_) (ih (first + 1))
      exact (mem_numbered.mp hy).1

/-! ## Weights -/

/-- The sum of `w` over the slots that satisfy `p`. -/
def weight (p : α → Bool) (w : α → Nat) (l : List α) : Nat :=
  ((l.filter p).map w).sum

variable {p : α → Bool} {w : α → Nat}

@[simp] theorem weight_nil : weight p w [] = 0 := rfl

theorem weight_cons (a : α) (l : List α) :
    weight p w (a :: l) = (if p a then w a else 0) + weight p w l := by
  by_cases h : p a = true <;> simp [weight, h]

theorem weight_append (l m : List α) : weight p w (l ++ m) = weight p w l + weight p w m := by
  simp [weight]

/-- Rewriting one slot exchanges its own contribution and no other. -/
theorem weight_modify {l : List α} {i : Nat} {a : α} (h : l[i]? = some a) (f : α → α) :
    weight p w (l.modify i f) + (if p a then w a else 0) =
      weight p w l + (if p (f a) then w (f a) else 0) := by
  induction l generalizing i with
  | nil => simp at h
  | cons c l ih =>
      cases i with
      | zero =>
          simp only [List.getElem?_cons_zero, Option.some.injEq] at h
          subst c
          simp only [List.modify_zero_cons, weight_cons]
          omega
      | succ i =>
          have hrec := ih (by simpa using h)
          simp only [List.modify_succ_cons, weight_cons]
          omega

theorem weight_eq_zero {l : List α} (h : ∀ a ∈ l, p a = false) : weight p w l = 0 := by
  have hnil : l.filter p = [] := by
    rw [List.filter_eq_nil_iff]
    intro a ha
    simp [h a ha]
  simp [weight, hnil]

theorem weight_of_constant {l : List α} {k : Nat} (h : ∀ a ∈ l, w a = k) :
    weight p w l = k * weight p (fun _ => 1) l := by
  induction l with
  | nil => simp
  | cons a l ih =>
      have hrest := ih fun b hb => h b (by simp [hb])
      have ha := h a (by simp)
      rw [weight_cons, weight_cons, hrest, ha]
      split <;> simp [Nat.mul_add]

theorem le_weight {l : List α} {a : α} (ha : a ∈ l) (hp : p a = true) : w a ≤ weight p w l :=
  List.le_sum_of_mem (List.mem_map_of_mem (List.mem_filter.mpr ⟨ha, hp⟩))

/-- Clearing slots without weight from the front keeps the weight. -/
theorem weight_popWhile {q : Nat → α → Bool} (hq : ∀ n a, q n a = true → p a = false)
    (first : Nat) (l : List α) : weight p w (popWhile q first l).2 = weight p w l := by
  obtain ⟨dropped, hl, _, hd, _⟩ := popWhile_spec q first l
  have hz : weight p w dropped = 0 := by
    apply weight_eq_zero
    intro a ha
    obtain ⟨i, hi⟩ := List.getElem?_of_mem ha
    exact hq _ a (hd i a hi)
  have hsum := congrArg (weight p w) hl
  rw [weight_append, hz, Nat.zero_add] at hsum
  exact hsum.symm

end Slots
