import Mathlib.Data.List.Chain

/-!
Words between marks. `joinedWords` keeps the words of a text and one mark between
two of them; it leaves a text alone that neither begins nor ends with the mark
and has no two marks next to each other.
-/

namespace Sampraan.Library.Words

variable {α : Type} [DecidableEq α] {x c d : α} {l : List α}

def joinedWords (x : α) (l : List α) : List α := [x].intercalate ((l.splitOn x).filter (· ≠ []))

theorem splitOn_mark : (x :: l).splitOn x = [] :: l.splitOn x := List.splitOn_append_cons_self [] l

theorem joinedWords_nil : joinedWords x [] = [] := rfl

theorem joinedWords_mark : joinedWords x (x :: l) = joinedWords x l := by
  rw [joinedWords, splitOn_mark]
  rfl

theorem splitOn_cons_of_ne (hc : c ≠ x) :
    ∃ word rest, l.splitOn x = word :: rest ∧ (c :: l).splitOn x = (c :: word) :: rest := by
  obtain ⟨word, rest, hsplit⟩ := List.exists_cons_of_ne_nil (List.splitOn_ne_nil x l)
  refine ⟨word, rest, hsplit, ?_⟩
  rw [List.splitOn_cons_eq_if_modifyHead, if_neg (by simpa using hc), hsplit, List.modifyHead_cons]

omit [DecidableEq α] in
theorem intercalate_cons_head (word : List α) (rest : List (List α)) :
    [x].intercalate ((c :: word) :: rest) = c :: [x].intercalate (word :: rest) := by
  cases rest with
  | nil => simp
  | cons word' rest => simp

theorem joinedWords_singleton (hc : c ≠ x) : joinedWords x [c] = [c] := by
  obtain ⟨word, rest, hsplit, hsplit'⟩ := splitOn_cons_of_ne (l := []) hc
  rw [List.splitOn_nil, List.cons_eq_cons] at hsplit
  obtain ⟨rfl, rfl⟩ := hsplit
  rw [joinedWords, hsplit']
  rfl

theorem joinedWords_cons_cons (hc : c ≠ x) (hd : d ≠ x) :
    joinedWords x (c :: d :: l) = c :: joinedWords x (d :: l) := by
  obtain ⟨word, rest, -, hsplit⟩ := splitOn_cons_of_ne (l := l) hd
  obtain ⟨word', rest', hsplit', hsplit''⟩ := splitOn_cons_of_ne (l := d :: l) hc
  rw [hsplit, List.cons_eq_cons] at hsplit'
  obtain ⟨rfl, rfl⟩ := hsplit'
  rw [joinedWords, joinedWords, hsplit, hsplit'', List.filter_cons_of_pos (by simp),
    List.filter_cons_of_pos (by simp), intercalate_cons_head]

theorem joinedWords_eq_nil :
    joinedWords x l = [] ↔ (l.splitOn x).filter (· ≠ []) = [] := by
  constructor
  · intro h
    cases hwords : (l.splitOn x).filter (· ≠ []) with
    | nil => rfl
    | cons word rest =>
      have hmem : word ∈ (l.splitOn x).filter (· ≠ []) := by
        rw [hwords]
        exact List.mem_cons_self ..
      have hword : word ≠ [] := by simpa using (List.mem_filter.mp hmem).2
      obtain ⟨c, word, rfl⟩ := List.exists_cons_of_ne_nil hword
      rw [joinedWords, hwords, intercalate_cons_head] at h
      cases h
  · intro h
    rw [joinedWords, h]
    rfl

theorem joinedWords_cons_mark (hc : c ≠ x) :
    joinedWords x (c :: x :: l) =
      if joinedWords x l = [] then [c] else c :: x :: joinedWords x l := by
  obtain ⟨word, rest, hsplit, hsplit'⟩ := splitOn_cons_of_ne (l := x :: l) hc
  rw [splitOn_mark, List.cons_eq_cons] at hsplit
  obtain ⟨rfl, rfl⟩ := hsplit
  rw [joinedWords, hsplit', List.filter_cons_of_pos (by simp)]
  split
  case isTrue h =>
    rw [joinedWords_eq_nil.mp h]
    rfl
  case isFalse h =>
    obtain ⟨word, rest, hwords⟩ := List.exists_cons_of_ne_nil (mt joinedWords_eq_nil.mpr h)
    rw [joinedWords, hwords]
    simp

/-- The cases in which `joinedWords` computes. -/
theorem words_induction {motive : List α → Prop} (x : α) (nil : motive [])
    (mark : ∀ l, motive l → motive (x :: l)) (singleton : ∀ c, c ≠ x → motive [c])
    (cons_mark : ∀ c l, c ≠ x → motive l → motive (c :: x :: l))
    (cons_cons : ∀ c d l, c ≠ x → d ≠ x → motive (d :: l) → motive (c :: d :: l)) :
    ∀ l, motive l
  | [] => nil
  | c :: [] => by
    by_cases hc : c = x
    · exact hc ▸ mark [] nil
    · exact singleton c hc
  | c :: d :: l => by
    by_cases hc : c = x
    · exact hc ▸ mark _ (words_induction x nil mark singleton cons_mark cons_cons (d :: l))
    by_cases hd : d = x
    · exact hd ▸ cons_mark c l hc (words_induction x nil mark singleton cons_mark cons_cons l)
    · exact cons_cons c d l hc hd
        (words_induction x nil mark singleton cons_mark cons_cons (d :: l))

theorem joinedWords_sublist (x : α) (l : List α) : (joinedWords x l).Sublist l := by
  induction l using words_induction x with
  | nil => exact List.Sublist.refl _
  | mark l ih =>
    rw [joinedWords_mark]
    exact ih.cons x
  | singleton c hc => rw [joinedWords_singleton hc]
  | cons_mark c l hc ih =>
    rw [joinedWords_cons_mark hc]
    split
    · exact (List.nil_sublist _).cons_cons c
    · exact (ih.cons_cons x).cons_cons c
  | cons_cons c d l hc hd ih =>
    rw [joinedWords_cons_cons hc hd]
    exact ih.cons_cons c

/-! ### Tidy texts -/

/-- No mark stands first, last, or next to another one. -/
structure Tidy (x : α) (l : List α) : Prop where
  head : l.head? ≠ some x
  last : l.getLast? ≠ some x
  single : l.IsChain fun c d => ¬(c = x ∧ d = x)

theorem tidy_joinedWords (x : α) (l : List α) : Tidy x (joinedWords x l) := by
  induction l using words_induction x with
  | nil => exact ⟨by simp [joinedWords_nil], by simp [joinedWords_nil], by simp [joinedWords_nil]⟩
  | mark l ih => rwa [joinedWords_mark]
  | singleton c hc =>
    rw [joinedWords_singleton hc]
    exact ⟨by simpa using hc, by simpa using hc, by simp⟩
  | cons_mark c l hc ih =>
    rw [joinedWords_cons_mark hc]
    split
    case isTrue => exact ⟨by simpa using hc, by simpa using hc, by simp⟩
    case isFalse h =>
      obtain ⟨d, rest, hwords⟩ := List.exists_cons_of_ne_nil h
      rw [hwords] at ih ⊢
      have hd : d ≠ x := by simpa using ih.head
      refine ⟨by simpa using hc, ?_, ?_⟩
      · simpa [List.getLast?_cons_cons] using ih.last
      · simpa [hc, hd] using ih.single
  | cons_cons c d l hc hd ih =>
    rw [joinedWords_cons_cons hc hd]
    obtain ⟨rest, hwords⟩ : ∃ rest, joinedWords x (d :: l) = d :: rest := by
      cases l with
      | nil => exact ⟨[], joinedWords_singleton hd⟩
      | cons e l =>
        by_cases he : e = x
        · subst he
          rw [joinedWords_cons_mark hd]
          split
          · exact ⟨_, rfl⟩
          · exact ⟨_, rfl⟩
        · exact ⟨_, joinedWords_cons_cons hd he⟩
    rw [hwords] at ih ⊢
    exact ⟨by simpa using hc, by simpa [List.getLast?_cons_cons] using ih.last, by
      simpa [hc] using ih.single⟩

omit [DecidableEq α] in
theorem Tidy.tail (h : Tidy x (c :: d :: l)) (hd : d ≠ x) : Tidy x (d :: l) := by
  have hlast := h.last
  have hsingle := h.single
  rw [List.getLast?_cons_cons] at hlast
  simp only [List.isChain_cons_cons] at hsingle
  exact ⟨by simpa using hd, hlast, hsingle.2⟩

omit [DecidableEq α] in
/-- Behind a mark in the middle the next word begins. -/
theorem Tidy.next (h : Tidy x (c :: x :: l)) : l ≠ [] ∧ Tidy x l := by
  cases l with
  | nil => exact absurd rfl h.last
  | cons d l =>
    have hlast := h.last
    have hsingle := h.single
    rw [List.getLast?_cons_cons, List.getLast?_cons_cons] at hlast
    simp only [List.isChain_cons_cons] at hsingle
    have hd : d ≠ x := fun hd => hsingle.2.1 ⟨trivial, hd⟩
    exact ⟨List.cons_ne_nil _ _, by simpa using hd, hlast, hsingle.2.2⟩

theorem Tidy.joinedWords (h : Tidy x l) : joinedWords x l = l := by
  induction l using words_induction x with
  | nil => rfl
  | mark l => exact absurd rfl h.head
  | singleton c hc => exact joinedWords_singleton hc
  | cons_mark c l hc ih =>
    obtain ⟨hl, htidy⟩ := h.next
    have hrest := ih htidy
    rw [joinedWords_cons_mark hc, hrest, if_neg hl]
  | cons_cons c d l hc hd ih =>
    have hrest := ih (h.tail hd)
    rw [joinedWords_cons_cons hc hd, hrest]

end Sampraan.Library.Words
