import Sampraan.Library.Decimal
import Mathlib.Algebra.Group.Nat.Defs
import Mathlib.Tactic.IntervalCases

/-! Words written in hexadecimal, every digit of them. -/

namespace Sampraan.Library.HexText

def hexDigits : ℕ → ℕ → List Char
  | 0, _ => []
  | width + 1, n => hexDigits width (n / 16) ++ [Nat.digitChar (n % 16)]

@[simp] theorem hexDigits_length (width n : ℕ) : (hexDigits width n).length = width := by
  induction width generalizing n with
  | zero => rfl
  | succ width ih => rw [hexDigits, List.length_append, ih, List.length_singleton]

theorem digitChar_injOn {a b : ℕ} (ha : a < 16) (hb : b < 16)
    (h : Nat.digitChar a = Nat.digitChar b) : a = b := by
  interval_cases a <;> interval_cases b <;> first | rfl | exact absurd h (by decide)

theorem hexDigits_injOn {width n m : ℕ} (hn : n < 16 ^ width) (hm : m < 16 ^ width)
    (h : hexDigits width n = hexDigits width m) : n = m := by
  induction width generalizing n m with
  | zero => simp at hn hm; omega
  | succ width ih =>
    obtain ⟨hhigh, hlow⟩ := List.append_inj' h rfl
    have hdigit := digitChar_injOn (Nat.mod_lt _ (by omega)) (Nat.mod_lt _ (by omega))
      (List.singleton_injective hlow)
    have hrest := ih (by rw [Nat.pow_succ] at hn; omega) (by rw [Nat.pow_succ] at hm; omega) hhigh
    omega

end Sampraan.Library.HexText
