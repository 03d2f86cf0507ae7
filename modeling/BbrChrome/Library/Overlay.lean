import Mathlib.Tactic.TypeStar

/-!
# Overlays

What a step of a program may change, said once. An overlay takes some fields of a state from
another one. A step that changes only these fields leaves every reading alone that does not look
at them.
-/

/-- `put s t` is `s` with the fields of the overlay taken from `t`. -/
structure Overlay (σ : Type*) where
  put : σ → σ → σ
  put_self : ∀ s, put s s = s
  put_put : ∀ s t u, put (put s t) u = put s u

namespace Overlay

variable {σ α : Type*} {o o' : Overlay σ} {s t u : σ}

/-- From `s` to `t` only the fields of the overlay change. -/
def Changes (o : Overlay σ) (s t : σ) : Prop := t = o.put s t

namespace Changes

theorem refl (o : Overlay σ) (s : σ) : o.Changes s s := (o.put_self s).symm

theorem trans (h : o.Changes s t) (h' : o.Changes t u) : o.Changes s u :=
  calc u = o.put t u := h'
    _ = o.put (o.put s t) u := congrArg (o.put · u) h
    _ = o.put s u := o.put_put s t u

theorem ite {p : Prop} [Decidable p] (h : o.Changes s t) : o.Changes s (if p then t else s) := by
  split
  · exact h
  · exact refl o s

/-- A step on a part of the state, as a step on the whole of it. -/
theorem lift {τ : Type*} {p : Overlay τ} {a b : τ} (h : p.Changes a b) (whole : τ → σ)
    (hle : (fun a b => o.put (whole a) (whole (p.put a b))) = fun a b => whole (p.put a b)) :
    o.Changes (whole a) (whole b) :=
  calc whole b = whole (p.put a b) := congrArg whole h
    _ = o.put (whole a) (whole (p.put a b)) := (congrFun (congrFun hle a) b).symm
    _ = o.put (whole a) (whole b) := congrArg (fun b => o.put (whole a) (whole b)) h.symm

/-- The fields of `o` are among those of `o'`. -/
theorem mono (h : o.Changes s t) (hle : (fun s t => o'.put s (o.put s t)) = o.put) :
    o'.Changes s t :=
  h.lift id hle

/-- The frame rule: a reading that does not look at the fields of the overlay is kept. -/
theorem keeps (h : o.Changes s t) (f : σ → α)
    (hf : (fun s t => f (o.put s t)) = fun s _ => f s) : f t = f s :=
  (congrArg f h).trans (congrFun (congrFun hf s) t)

end Changes

end Overlay
