import Mathlib.Data.List.Chain

/-! Lists of moves, each starting where the one before it ends. -/

namespace Sampraan.Library

variable {α β : Type} {src dst : α → β} {b : β} {l : List α} {e : α}

structure Trail (src dst : α → β) (b : β) (l : List α) : Prop where
  first : ∀ e ∈ l.head?, src e = b
  next : l.IsChain fun x y => dst x = src y

def trailEnd (dst : α → β) (b : β) (l : List α) : β := (l.getLast?.map dst).getD b

theorem Trail.nil : Trail src dst b [] := ⟨by simp, by simp⟩

@[simp] theorem trailEnd_append : trailEnd dst b (l ++ [e]) = dst e := by
  simp [trailEnd]

theorem Trail.append (h : Trail src dst b l) (he : src e = trailEnd dst b l) :
    Trail src dst b (l ++ [e]) := by
  rcases List.eq_nil_or_concat l with rfl | ⟨l, last, rfl⟩
  · exact ⟨by simpa [trailEnd] using he, by simp⟩
  · rw [List.concat_eq_append] at h he ⊢
    constructor
    · cases l with
      | nil => simpa using h.first
      | cons x l => simpa using h.first
    · refine h.next.append (List.isChain_singleton e) ?_
      simp only [List.getLast?_append, List.getLast?_singleton, Option.some_or, Option.mem_def,
        Option.some.injEq, List.head?_cons]
      rintro a rfl b rfl
      simpa [trailEnd] using he.symm

/-! ### Parts and images -/

theorem trailEnd_join {l' : List α} :
    trailEnd dst b (l ++ l') = trailEnd dst (trailEnd dst b l) l' := by
  rcases List.eq_nil_or_concat l' with rfl | ⟨l', last, rfl⟩
  · simp [trailEnd]
  · rw [List.concat_eq_append, ← List.append_assoc, trailEnd_append, trailEnd_append]

theorem Trail.suffix {l' : List α} (h : Trail src dst b (l ++ l')) :
    Trail src dst (trailEnd dst b l) l' := by
  obtain ⟨-, hchain, hjoin⟩ := List.isChain_append.mp h.next
  constructor
  · intro e he
    rcases List.eq_nil_or_concat l with rfl | ⟨l, last, rfl⟩
    · exact h.first e he
    · rw [List.concat_eq_append, trailEnd_append]
      exact (hjoin last (by simp) e he).symm
  · exact hchain

variable {γ δ : Type}

theorem Trail.image (f : β → γ) (h : Trail src dst b l) : Trail (f ∘ src) (f ∘ dst) (f b) l where
  first e he := congrArg f (h.first e he)
  next := h.next.imp fun _ _ hxy => congrArg f hxy

theorem trailEnd_image (f : β → γ) : trailEnd (f ∘ dst) (f b) l = f (trailEnd dst b l) := by
  rcases List.eq_nil_or_concat l with rfl | ⟨l, last, rfl⟩
  · rfl
  · rw [List.concat_eq_append, trailEnd_append, trailEnd_append]
    rfl

theorem trail_map {f : δ → α} {l : List δ} :
    Trail src dst b (l.map f) ↔ Trail (src ∘ f) (dst ∘ f) b l := by
  constructor
  · rintro ⟨hfirst, hnext⟩
    refine ⟨fun e he => hfirst (f e) ?_, List.isChain_map f |>.mp hnext⟩
    rw [List.head?_map, he]
    rfl
  · rintro ⟨hfirst, hnext⟩
    refine ⟨fun e he => ?_, List.isChain_map f |>.mpr hnext⟩
    rw [List.head?_map] at he
    obtain ⟨d, hd, rfl⟩ := Option.map_eq_some_iff.mp he
    exact hfirst d hd

theorem trailEnd_map {f : δ → α} {l : List δ} : trailEnd dst b (l.map f) = trailEnd (dst ∘ f) b l := by
  rw [trailEnd, List.getLast?_map, Option.map_map]
  rfl

end Sampraan.Library
