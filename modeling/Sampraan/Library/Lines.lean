import Mathlib.Data.List.Basic

/-!
Texts made of lines. A list of lines is read back from its text when no line
has the separator in it. Two texts that agree but for some lines in the middle
agree there as texts, however these lines are cut.
-/

namespace Sampraan.Library.Lines

variable {α : Type} {x : α}

theorem intercalate_cons_cons (l l' : List α) (ls : List (List α)) :
    [x].intercalate (l :: l' :: ls) = l ++ x :: [x].intercalate (l' :: ls) := by
  simp [List.intercalate]

theorem intercalate_append {ls ms : List (List α)} (hls : ls ≠ []) (hms : ms ≠ []) :
    [x].intercalate (ls ++ ms) = [x].intercalate ls ++ x :: [x].intercalate ms := by
  induction ls with
  | nil => exact absurd rfl hls
  | cons l ls ih =>
    cases ls with
    | nil =>
      obtain ⟨m, ms, rfl⟩ := List.exists_cons_of_ne_nil hms
      simp [List.intercalate]
    | cons l' ls =>
      have hrest := ih (List.cons_ne_nil _ _)
      rw [List.cons_append, List.cons_append, intercalate_cons_cons, intercalate_cons_cons,
        ← List.cons_append, hrest, List.append_assoc, List.cons_append]

/-- Two ways of cutting one text at a mark, whose first letter comes once in it: they are the same,
or one of the parts has the mark in it. -/
theorem cut_twice {w t t' r r' : List α} (hw : x ∉ w)
    (h : t ++ (x :: w) ++ r = t' ++ (x :: w) ++ r') :
    (t = t' ∧ r = r') ∨ ∃ m, (t = t' ++ (x :: w) ++ m ∧ r' = m ++ (x :: w) ++ r) ∨
      (r = m ++ (x :: w) ++ r' ∧ t' = t ++ (x :: w) ++ m) := by
  have hcut {t c r r' : List α} (hc : c ≠ []) (h : (x :: w) ++ r = c ++ ((x :: w) ++ r')) :
      ∃ m, c = (x :: w) ++ m ∧ r = m ++ (x :: w) ++ r' := by
    rcases List.append_eq_append_iff.mp h with ⟨m, hm, hr⟩ | ⟨m, hm, hr⟩
    · exact ⟨m, hm, by rw [hr, List.append_assoc]⟩
    · cases m with
      | nil => exact ⟨[], by simpa using hm.symm, by simpa using hr.symm⟩
      | cons y m =>
        obtain ⟨z, c, rfl⟩ := List.exists_cons_of_ne_nil hc
        simp only [List.cons_append, List.cons.injEq] at hm hr
        exact absurd (hm.2 ▸ by simp [hr.1]) hw
  rw [List.append_assoc, List.append_assoc] at h
  rcases List.append_eq_append_iff.mp h with ⟨c, rfl, hr⟩ | ⟨c, rfl, hr⟩
  · cases c with
    | nil => exact .inl ⟨by simp, by simpa using hr⟩
    | cons y c =>
      obtain ⟨m, hc, hr⟩ := hcut (t := t) (List.cons_ne_nil _ _) hr
      exact .inr ⟨m, .inr ⟨hr, by rw [hc, List.append_assoc]⟩⟩
  · cases c with
    | nil => exact .inl ⟨by simp, by simpa using hr.symm⟩
    | cons y c =>
      obtain ⟨m, hc, hr⟩ := hcut (t := t') (List.cons_ne_nil _ _) hr
      exact .inr ⟨m, .inl ⟨by rw [hc, List.append_assoc], hr⟩⟩

variable [DecidableEq α]

theorem length_splitOn (l : List α) : (l.splitOn x).length = l.count x + 1 := by
  induction l with
  | nil => rfl
  | cons y l ih =>
    rw [List.splitOn_cons_eq_if_modifyHead]
    by_cases hy : y = x
    · rw [if_pos (beq_iff_eq.mpr hy), hy, List.length_cons, ih, List.count_cons_self]
    · rw [if_neg (by simpa using hy), List.length_modifyHead, ih, List.count_cons_of_ne hy]

theorem splitOn_intercalate_flatMap {ls : List (List α)} (hne : ls ≠ []) :
    ([x].intercalate ls).splitOn x = ls.flatMap (List.splitOn x) := by
  induction ls with
  | nil => exact absurd rfl hne
  | cons l ls ih =>
    cases ls with
    | nil => simp [List.intercalate]
    | cons l' ls =>
      rw [intercalate_cons_cons, List.splitOn_append_cons_self, ih (List.cons_ne_nil _ _)]
      rfl

theorem flatMap_splitOn_self {ls : List (List α)} (h : ∀ l ∈ ls, x ∉ l) :
    ls.flatMap (List.splitOn x) = ls := by
  induction ls with
  | nil => rfl
  | cons l ls ih =>
    have hsplit : l.splitOn x = [l] := by
      have hline : ∀ l' ∈ [l], x ∉ l' := by simpa using h l (List.mem_cons_self)
      simpa [List.intercalate] using List.splitOn_intercalate x hline (List.cons_ne_nil _ _)
    rw [List.flatMap_cons, hsplit, ih fun l hl => h l (List.mem_cons_of_mem _ hl)]
    rfl

theorem intercalate_append_inj {ls ls' ms ms' bs bs' : List (List α)} (hlen : ls.length = ls'.length)
    (hlen' : bs.length = bs'.length) (hls : ∀ l ∈ ls ++ ls', x ∉ l) (hbs : ∀ l ∈ bs ++ bs', x ∉ l)
    (hms : ms ≠ []) (hms' : ms' ≠ [])
    (h : [x].intercalate (ls ++ ms ++ bs) = [x].intercalate (ls' ++ ms' ++ bs')) :
    ls = ls' ∧ [x].intercalate ms = [x].intercalate ms' ∧ bs = bs' := by
  have hsplit := congrArg (List.splitOn x) h
  rw [splitOn_intercalate_flatMap (by simp [hms]), splitOn_intercalate_flatMap (by simp [hms'])] at hsplit
  simp only [List.flatMap_append, List.forall_mem_append] at hsplit hls hbs
  rw [flatMap_splitOn_self hls.1, flatMap_splitOn_self hls.2, flatMap_splitOn_self hbs.1,
    flatMap_splitOn_self hbs.2] at hsplit
  obtain ⟨hfront, hback⟩ := List.append_inj' hsplit hlen'
  obtain ⟨hstart, hmiddle⟩ := List.append_inj hfront hlen
  refine ⟨hstart, ?_, hback⟩
  rw [← splitOn_intercalate_flatMap hms, ← splitOn_intercalate_flatMap hms'] at hmiddle
  rw [← @List.intercalate_splitOn _ ([x].intercalate ms) _ _ x, hmiddle, List.intercalate_splitOn]

/-- A list of words that are not empty is read back from its text. -/
theorem intercalate_inj {ls ls' : List (List α)} (hls : ∀ l ∈ ls ++ ls', l ≠ [] ∧ x ∉ l)
    (h : [x].intercalate ls = [x].intercalate ls') : ls = ls' := by
  have hread {ls : List (List α)} (hls : ∀ l ∈ ls, l ≠ [] ∧ x ∉ l) :
      ls = if [x].intercalate ls = [] then [] else ([x].intercalate ls).splitOn x := by
    cases ls with
    | nil => simp [List.intercalate]
    | cons l ls =>
      have hne : [x].intercalate (l :: ls) ≠ [] := by
        cases ls with
        | nil => simpa [List.intercalate] using (hls l (by simp)).1
        | cons l' ls => simp
      rw [if_neg hne, List.splitOn_intercalate x (fun l hl => (hls l hl).2) (List.cons_ne_nil _ _)]
  rw [List.forall_mem_append] at hls
  rw [hread hls.1, hread hls.2, h]

end Sampraan.Library.Lines
