import Mathlib.Data.List.Basic
import Mathlib.Tactic.Common

/-! Lists sorted stably by a number. -/

namespace Sampraan.Library

variable {α : Type} {key : α → ℕ} {l : List α} {p : α → Bool}

def sortOn (key : α → ℕ) (l : List α) : List α := l.mergeSort fun a b => key a ≤ key b

theorem sortOn_perm : (sortOn key l).Perm l := List.mergeSort_perm _ _

theorem sortOn_pairwise : (sortOn key l).Pairwise fun a b => key a ≤ key b := by
  have hsorted : (sortOn key l).Pairwise fun a b => decide (key a ≤ key b) = true := by
    apply List.pairwise_mergeSort
    · intro a b c hab hbc
      simp at *
      omega
    · intro a b
      simp
      omega
  exact hsorted.imp fun h => of_decide_eq_true h

/-- Those of one number stay in their order. -/
theorem sortOn_filter {n : ℕ} (hp : ∀ a, p a = true → key a = n) :
    (sortOn key l).filter p = l.filter p := by
  have hequal : (l.filter p).Pairwise fun a b => decide (key a ≤ key b) = true := by
    rw [List.pairwise_iff_forall_sublist]
    intro a b hab
    have ha := hp a (List.mem_filter.mp (hab.subset (by simp))).2
    have hb := hp b (List.mem_filter.mp (hab.subset (by simp))).2
    simp [ha, hb]
  have hsub : (l.filter p).Sublist (sortOn key l) := List.sublist_mergeSort
    (fun a b c hab hbc => by simp at *; omega) (fun a b => by simp; omega) hequal List.filter_sublist
  have hfiltered : (l.filter p).Sublist ((sortOn key l).filter p) := by
    have h := hsub.filter p
    rwa [List.filter_filter, funext fun a => Bool.and_self (p a)] at h
  exact (hfiltered.eq_of_length (sortOn_perm.filter p).length_eq.symm).symm

/-- The last of some elements is the last of those among them with the greatest number. -/
theorem getLast?_sortOn_filter {n : ℕ} (hle : ∀ a ∈ l, p a = true → key a ≤ n)
    (hmax : ∃ a ∈ l, p a = true ∧ key a = n) :
    ((sortOn key l).filter p).getLast? = (l.filter fun a => key a == n && p a).getLast? := by
  have hclass : (sortOn key l).filter (fun a => key a == n && p a) =
      l.filter fun a => key a == n && p a :=
    sortOn_filter fun a ha => by simp at ha; exact ha.1
  rw [← hclass, ← List.filter_filter]
  obtain ⟨a, ha, hpa, hkey⟩ := hmax
  have hmem : a ∈ (sortOn key l).filter p := List.mem_filter.mpr ⟨sortOn_perm.mem_iff.mpr ha, hpa⟩
  have hordered : ((sortOn key l).filter p).Pairwise fun a b => key a ≤ key b :=
    sortOn_pairwise.filter p
  have hbound : ∀ b ∈ (sortOn key l).filter p, key b ≤ n := fun b hb =>
    hle b (sortOn_perm.mem_iff.mp (List.mem_filter.mp hb).1) (List.mem_filter.mp hb).2
  generalize (sortOn key l).filter p = sorted at hmem hordered hbound
  rcases List.eq_nil_or_concat sorted with rfl | ⟨front, last, rfl⟩
  · cases hmem
  · rw [List.concat_eq_append] at hmem hordered hbound ⊢
    have hlast : key last = n := by
      have hle' := hbound last (by simp)
      rcases List.mem_append.mp hmem with h | h
      · have := (List.pairwise_append.mp hordered).2.2 a h last (by simp)
        omega
      · rw [← List.mem_singleton.mp h]
        exact hkey
    rw [List.filter_append, List.getLast?_append, List.getLast?_append]
    simp [hlast]

end Sampraan.Library
