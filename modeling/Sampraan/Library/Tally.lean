import Mathlib.Algebra.BigOperators.Group.Finset.Basic
import Mathlib.Algebra.Order.BigOperators.Group.Finset
import Mathlib.Logic.Function.Basic

/-! How often a value occurs among the first values of a sequence. -/

namespace Sampraan.Library

variable {α : Type} [DecidableEq α] {f : ℕ → α} {n i : ℕ} {x a : α}

def tally (f : ℕ → α) (n : ℕ) (a : α) : ℕ := ((Finset.range n).filter (f · = a)).card

theorem tally_le : tally f n a ≤ n := by
  have hle := Finset.card_filter_le (Finset.range n) (f · = a)
  rwa [Finset.card_range] at hle

theorem tally_succ : tally f (n + 1) a = tally f n a + if f n = a then 1 else 0 := by
  rw [tally, Finset.range_add_one, Finset.filter_insert]
  split
  · rw [Finset.card_insert_of_notMem (by simp), tally]
  · rfl

theorem tally_update_of_le (hi : n ≤ i) : tally (Function.update f i x) n a = tally f n a := by
  rw [tally, tally]
  congr 1
  apply Finset.filter_congr
  intro j hj
  have hji : j ≠ i := by
    have hlt := Finset.mem_range.mp hj
    omega
  rw [Function.update_of_ne hji]

/-- The old value is counted out, the new one in. -/
theorem tally_update (hi : i < n) : tally (Function.update f i x) n a + (if f i = a then 1 else 0) =
    tally f n a + if x = a then 1 else 0 := by
  induction n with
  | zero => omega
  | succ n ih =>
    rw [tally_succ, tally_succ]
    by_cases hn : i = n
    · subst hn
      rw [tally_update_of_le le_rfl, Function.update_self]
      omega
    · have hold := ih (by omega)
      rw [Function.update_of_ne (Ne.symm hn)]
      omega

theorem tally_pos (hi : i < n) (h : f i = a) : 0 < tally f n a := by
  apply Finset.card_pos.mpr
  exact ⟨i, Finset.mem_filter.mpr ⟨Finset.mem_range.mpr hi, h⟩⟩

theorem sum_tally {s : Finset α} (h : ∀ i < n, f i ∈ s) : ∑ a ∈ s, tally f n a = n := by
  have hcard := Finset.card_eq_sum_card_fiberwise (f := f) (s := Finset.range n) (t := s)
    fun i hi => h i (Finset.mem_range.mp hi)
  rw [Finset.card_range] at hcard
  exact hcard.symm

end Sampraan.Library
