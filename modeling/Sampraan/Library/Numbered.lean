import Mathlib.Logic.Function.Basic
import Mathlib.Order.Nat
import Mathlib.Tactic.Common

/-! Stores of entries numbered from 1: a mapping and the number of the last entry. -/

namespace Sampraan.Library

variable {α β : Type} {written : α → Prop} {f g k : ℕ → α} {n m l : ℕ} {x : α}

/-- The entries `1..n` are written, and no other. -/
def Numbered (written : α → Prop) (f : ℕ → α) (n : ℕ) : Prop :=
  ∀ id, written (f id) ↔ 1 ≤ id ∧ id ≤ n

theorem Numbered.empty (hx : ¬ written x) : Numbered written (fun _ => x) 0 := fun id =>
  iff_of_false hx fun h => by omega

theorem Numbered.push (h : Numbered written f n) (hx : written x) :
    Numbered written (Function.update f (n + 1) x) (n + 1) := by
  intro id
  by_cases hid : id = n + 1
  · subst hid
    rw [Function.update_self]
    exact iff_of_true hx ⟨by omega, le_refl _⟩
  · rw [Function.update_of_ne hid, h id]
    omega

structure Extended (f : ℕ → α) (n : ℕ) (g : ℕ → α) (m : ℕ) : Prop where
  le : n ≤ m
  same : ∀ id, id ≤ n → g id = f id

theorem Extended.refl (f : ℕ → α) (n : ℕ) : Extended f n f n := ⟨le_refl _, fun _ _ => rfl⟩

theorem Extended.trans (h : Extended f n g m) (h' : Extended g m k l) : Extended f n k l where
  le := h.le.trans h'.le
  same id hid := (h'.same id (hid.trans h.le)).trans (h.same id hid)

theorem Extended.push (f : ℕ → α) (n : ℕ) (x : α) :
    Extended f n (Function.update f (n + 1) x) (n + 1) where
  le := n.le_succ
  same id hid := Function.update_of_ne (by omega) _ _

end Sampraan.Library
