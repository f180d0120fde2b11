import Mathlib.Data.List.Basic
import Mathlib.Tactic.Common

/-!
Machines whose calls commit a new state or revert, and their runs. A call that
reverts leaves the state as it was, so a run lists the committed calls only.
-/

namespace Sampraan.Library

structure Machine (κ σ ε : Type) where
  run : κ → σ → Except ε σ

variable {κ σ ε : Type}

namespace Machine

variable {M : Machine κ σ ε}

def after (M : Machine κ σ ε) (k : κ) (s : σ) : σ :=
  match M.run k s with
  | .ok t => t
  | .error _ => s

theorem after_eq {k : κ} {s : σ} : M.after k s = s ∨ M.run k s = .ok (M.after k s) := by
  unfold after
  split
  · exact .inr ‹_›
  · exact .inl rfl

/-- The runs from `s₀` all of whose committed calls meet `C`; the history lists these calls and
the states around them, in order. -/
inductive Run (M : Machine κ σ ε) (C : κ → σ → Prop) (s₀ : σ) : List (κ × σ × σ) → σ → Prop
  | init : Run M C s₀ [] s₀
  | call {h s k t} (hr : Run M C s₀ h s) (hk : C k s) (ht : M.run k s = .ok t) :
    Run M C s₀ (h ++ [(k, s, t)]) t

def Reachable (M : Machine κ σ ε) (s₀ s : σ) : Prop := ∃ h, M.Run (fun _ _ => True) s₀ h s

variable {C : κ → σ → Prop} {I : σ → Prop} {s₀ s t : σ} {h h' : List (κ × σ × σ)}
  {e : κ × σ × σ}

theorem Run.mono {D : κ → σ → Prop} (hCD : ∀ k s, C k s → D k s) (hr : M.Run C s₀ h s) :
    M.Run D s₀ h s := by
  induction hr with
  | init => exact .init
  | call _ hk ht ih => exact ih.call (hCD _ _ hk) ht

theorem Run.strengthen {D : κ → σ → Prop} (hr : M.Run C s₀ h s) (hD : ∀ e ∈ h, D e.1 e.2.1) :
    M.Run D s₀ h s := by
  induction hr with
  | init => exact .init
  | @call h s k t _ hk ht ih =>
    have hlast : D k s := hD (k, s, t) (by simp)
    exact (ih fun e he => hD e (List.mem_append_left _ he)).call hlast ht

theorem Run.reachable (hr : M.Run C s₀ h s) : M.Reachable s₀ s :=
  ⟨h, hr.mono fun _ _ _ => trivial⟩

theorem Run.append (hr : M.Run C s₀ h s) (hr' : M.Run C s h' t) : M.Run C s₀ (h ++ h') t := by
  induction hr' with
  | init => simpa using hr
  | call _ hk ht ih =>
    rw [← List.append_assoc]
    exact ih.call hk ht

theorem Run.split {h₁ h₂ : List (κ × σ × σ)} (hr : M.Run C s₀ (h₁ ++ e :: h₂) s) :
    M.Run C s₀ h₁ e.2.1 ∧ C e.1 e.2.1 ∧ M.run e.1 e.2.1 = .ok e.2.2 ∧ M.Run C e.2.2 h₂ s := by
  generalize hh : h₁ ++ e :: h₂ = h at hr
  induction hr generalizing h₂ with
  | init => simp at hh
  | @call h s k t hr hk ht ih =>
    rcases List.eq_nil_or_concat h₂ with rfl | ⟨h₂, last, rfl⟩
    · obtain ⟨rfl, he⟩ := List.append_inj' hh rfl
      obtain rfl := List.singleton_injective he
      exact ⟨hr, hk, ht, .init⟩
    · have hlast : (h₁ ++ e :: h₂) ++ [last] = h ++ [(k, s, t)] := by simpa using hh
      obtain ⟨hh₁, he⟩ := List.append_inj' hlast rfl
      obtain rfl := List.singleton_injective he
      obtain ⟨hr₁, hC, hrun, hr₂⟩ := ih hh₁
      refine ⟨hr₁, hC, hrun, ?_⟩
      rw [List.concat_eq_append]
      exact hr₂.call hk ht

/-! ### Invariants -/

theorem Run.invariant (hr : M.Run C s₀ h s) (h₀ : I s₀)
    (hstep : ∀ k s t, I s → C k s → M.run k s = .ok t → I t) : I s := by
  induction hr with
  | init => exact h₀
  | call _ hk ht ih => exact hstep _ _ _ ih hk ht

theorem Run.mem (hr : M.Run C s₀ h s) (h₀ : I s₀)
    (hstep : ∀ k s t, I s → C k s → M.run k s = .ok t → I t) (he : e ∈ h) :
    I e.2.1 ∧ C e.1 e.2.1 ∧ M.run e.1 e.2.1 = .ok e.2.2 := by
  obtain ⟨h₁, h₂, rfl⟩ := List.append_of_mem he
  obtain ⟨hr₁, hC, hrun, -⟩ := hr.split
  exact ⟨hr₁.invariant h₀ hstep, hC, hrun⟩

theorem Run.monotone {R : σ → σ → Prop} (hr : M.Run C s₀ h s) (hrefl : ∀ s, R s s)
    (htrans : ∀ s t u, R s t → R t u → R s u) (h₀ : I s₀)
    (hinv : ∀ k s t, I s → C k s → M.run k s = .ok t → I t)
    (hstep : ∀ k s t, I s → C k s → M.run k s = .ok t → R s t) : R s₀ s := by
  induction hr with
  | init => exact hrefl _
  | call hr hk ht ih => exact htrans _ _ _ ih (hstep _ _ _ (hr.invariant h₀ hinv) hk ht)

/-- What comes to hold in a run is made to hold by one of its calls. -/
theorem Run.cause {Q : σ → Prop} (hr : M.Run C s₀ h s) (h₀ : ¬ Q s₀) (hs : Q s) :
    ∃ h₁ e h₂, h = h₁ ++ e :: h₂ ∧ ¬ Q e.2.1 ∧ Q e.2.2 := by
  induction hr with
  | init => exact absurd hs h₀
  | @call h s k t hr hk ht ih =>
    by_cases hQ : Q s
    · obtain ⟨h₁, e, h₂, rfl, hpre, hpost⟩ := ih hQ
      exact ⟨h₁, e, h₂ ++ [(k, s, t)], by simp, hpre, hpost⟩
    · exact ⟨h, (k, s, t), [], rfl, hQ, hs⟩

/-- A call that needs `taken` to be false and makes it true for good is committed at most once. -/
theorem Run.once (hr : M.Run C s₀ h s) (taken : σ → Prop) (take : κ × σ × σ → Prop)
    (h₀ : I s₀) (hinv : ∀ k s t, I s → C k s → M.run k s = .ok t → I t)
    (hkeep : ∀ k s t, I s → C k s → M.run k s = .ok t → taken s → taken t)
    (htake : ∀ e, I e.2.1 → C e.1 e.2.1 → M.run e.1 e.2.1 = .ok e.2.2 → take e →
      ¬ taken e.2.1 ∧ taken e.2.2) :
    (h.Pairwise fun a b => ¬ (take a ∧ take b)) ∧ ((∃ e ∈ h, take e) → taken s) := by
  induction hr with
  | init => simp
  | @call h s k t hr hk ht ih =>
    obtain ⟨hpairs, htaken⟩ := ih
    have hs := hr.invariant h₀ hinv
    constructor
    · refine List.pairwise_append.mpr ⟨hpairs, List.pairwise_singleton _ _, fun a ha b hb => ?_⟩
      rw [List.mem_singleton] at hb
      subst hb
      rintro ⟨hta, htb⟩
      exact (htake _ hs hk ht htb).1 (htaken ⟨a, ha, hta⟩)
    · rintro ⟨a, ha, hta⟩
      rcases List.mem_append.mp ha with ha | ha
      · exact hkeep _ _ _ hs hk ht (htaken ⟨a, ha, hta⟩)
      · rw [List.mem_singleton] at ha
        subst ha
        exact (htake _ hs hk ht hta).2

/-- A number that each call of a kind raises by one, and no other call changes, counts these
calls. -/
theorem Run.countP {p : κ × σ × σ → Bool} {m : σ → ℕ} (hr : M.Run C s₀ h s) (h₀ : I s₀)
    (hm : m s₀ = 0) (hinv : ∀ k s t, I s → C k s → M.run k s = .ok t → I t)
    (hstep : ∀ k s t, I s → C k s → M.run k s = .ok t →
      m t = m s + if p (k, s, t) then 1 else 0) : h.countP p = m s := by
  induction hr with
  | init => exact hm.symm
  | call hr hk ht ih =>
    rw [List.countP_append, List.countP_singleton, ih,
      hstep _ _ _ (hr.invariant h₀ hinv) hk ht]

/-! ### Projections -/

/-- The history of a component: `g` gives the component's call, if the call is one of its own. -/
def project {κ' σ' : Type} (f : σ → σ') (g : κ → σ → Option κ') (h : List (κ × σ × σ)) :
    List (κ' × σ' × σ') :=
  h.filterMap fun e => (g e.1 e.2.1).map fun k => (k, f e.2.1, f e.2.2)

theorem mem_project {κ' σ' : Type} {f : σ → σ'} {g : κ → σ → Option κ'} {e' : κ' × σ' × σ'} :
    e' ∈ project f g h ↔ ∃ e ∈ h, g e.1 e.2.1 = some e'.1 ∧ f e.2.1 = e'.2.1 ∧ f e.2.2 = e'.2.2 := by
  simp only [project, List.mem_filterMap, Option.map_eq_some_iff]
  refine exists_congr fun e => and_congr_right fun _ => ?_
  constructor
  · rintro ⟨k, hk, rfl⟩
    exact ⟨hk, rfl, rfl⟩
  · rintro ⟨hk, hpre, hpost⟩
    exact ⟨e'.1, hk, by rw [hpre, hpost]⟩

theorem Run.project {κ' σ' : Type} {N : Machine κ' σ' ε} {D : κ' → σ' → Prop} {f : σ → σ'}
    {g : κ → σ → Option κ'} (hr : M.Run C s₀ h s)
    (hstep : ∀ k s t, C k s → M.run k s = .ok t → (g k s = none ∧ f t = f s) ∨
      ∃ k', g k s = some k' ∧ D k' (f s) ∧ N.run k' (f s) = .ok (f t)) :
    N.Run D (f s₀) (project f g h) (f s) := by
  induction hr with
  | init => exact .init
  | @call h s k t hr hk ht ih =>
    rw [Machine.project, List.filterMap_append, ← Machine.project]
    rcases hstep k s t hk ht with ⟨hnone, hsame⟩ | ⟨k', hsome, hD, hrun⟩
    · simpa [hnone, hsame] using ih
    · simpa [hsome] using ih.call hD hrun

/-! ### Submitted calls -/

/-- All the calls that are submitted, those that revert too, with the states around them. -/
def trace (M : Machine κ σ ε) : List κ → σ → List (κ × σ × σ)
  | [], _ => []
  | k :: ks, s => (k, s, M.after k s) :: M.trace ks (M.after k s)

theorem trace_mem {ks : List κ} (h₀ : I s) (hstep : ∀ k s t, I s → M.run k s = .ok t → I t)
    (he : e ∈ M.trace ks s) : I e.2.1 ∧ e.2.2 = M.after e.1 e.2.1 := by
  induction ks generalizing s with
  | nil => simp [trace] at he
  | cons k ks ih =>
    rcases List.mem_cons.mp he with rfl | he
    · exact ⟨h₀, rfl⟩
    · refine ih ?_ he
      rcases M.after_eq (k := k) (s := s) with hsame | hrun
      · exact hsame.symm ▸ h₀
      · exact hstep _ _ _ h₀ hrun

/-! ### Executable runs -/

/-- Commits the calls in order as long as each succeeds and meets `C`. -/
def exec (M : Machine κ σ ε) (C : κ → σ → Prop) [∀ k s, Decidable (C k s)] :
    List κ → List (κ × σ × σ) → σ → Option (List (κ × σ × σ) × σ)
  | [], h, s => some (h, s)
  | k :: ks, h, s =>
    if C k s then
      match M.run k s with
      | .ok t => M.exec C ks (h ++ [(k, s, t)]) t
      | .error _ => none
    else none

theorem exec_run [∀ k s, Decidable (C k s)] {ks : List κ} (hr : M.Run C s₀ h s)
    (he : M.exec C ks h s = some (h', t)) : M.Run C s₀ h' t := by
  induction ks generalizing h s with
  | nil =>
    obtain ⟨rfl, rfl⟩ := Prod.mk.inj (Option.some.inj he)
    exact hr
  | cons k ks ih =>
    rw [exec] at he
    split at he
    · split at he
      · exact ih (hr.call ‹_› ‹_›) he
      · cases he
    · cases he

end Machine

end Sampraan.Library
