import Sampraan.Library.Recall
import Mathlib.Data.Finset.Card

/-!
Calls that go through phases. What a statement may do depends on the phase the
call is in, and an invariant of a run may speak of the phases of all its calls
at once.
-/

namespace Sampraan.Library

variable {κ σ ε α β π : Type}

namespace Async

variable {step : π → σ → σ → π → Prop} {R : α → π → Prop} {φ : π}

/-- In the phase `φ`, each statement the call can run makes a `step` to its next phase; when the
call is fulfilled, its value and its phase meet `R`. -/
inductive Follows (step : π → σ → σ → π → Prop) (R : α → π → Prop) : Async σ ε α → π → Prop
  | fulfilled {a : α} {φ : π} (hr : R a φ) : Follows step R (.fulfilled a) φ
  | rejected (e : ε) (φ : π) : Follows step R (.rejected e) φ
  | pending {effect : σ → σ} {next : σ → Async σ ε α} {φ : π} (after : σ → π)
    (hstep : ∀ s, step φ s (effect s) (after s)) (hnext : ∀ s, Follows step R (next s) (after s)) :
    Follows step R (.pending effect next) φ

theorem Follows.run {effect : σ → σ} {next : σ → Async σ ε α}
    (hp : (Async.pending effect next).Follows step R φ) (s : σ) :
    ∃ φ', step φ s (effect s) φ' ∧ (next s).Follows step R φ' := by
  cases hp with
  | pending after hstep hnext => exact ⟨after s, hstep s, hnext s⟩

/-- The next phase may depend on what the statement finds. -/
theorem Follows.intro {effect : σ → σ} {next : σ → Async σ ε α}
    (h : ∀ s, ∃ φ', step φ s (effect s) φ' ∧ (next s).Follows step R φ') :
    (Async.pending effect next).Follows step R φ :=
  .pending (fun s => (h s).choose) (fun s => (h s).choose_spec.1) fun s => (h s).choose_spec.2

theorem Follows.weaken {R' : α → π → Prop} {p : Async σ ε α} (hp : p.Follows step R φ)
    (hR : ∀ a φ, R a φ → R' a φ) : p.Follows step R' φ := by
  induction hp with
  | fulfilled hr => exact .fulfilled (hR _ _ hr)
  | rejected e φ => exact .rejected e φ
  | pending after hstep _ ih => exact .pending after hstep ih

theorem Follows.mono {step' : π → σ → σ → π → Prop} {p : Async σ ε α} (hp : p.Follows step R φ)
    (hstep : ∀ φ s t φ', step φ s t φ' → step' φ s t φ') : p.Follows step' R φ := by
  induction hp with
  | fulfilled hr => exact .fulfilled hr
  | rejected e φ => exact .rejected e φ
  | pending after h _ ih => exact .pending after (fun s => hstep _ _ _ _ (h s)) ih

theorem Follows.bind {R' : β → π → Prop} {p : Async σ ε α} {k : α → Async σ ε β}
    (hp : p.Follows step R φ) (hk : ∀ a φ', R a φ' → (k a).Follows step R' φ') :
    (p >>= k).Follows step R' φ := by
  induction hp with
  | fulfilled hr => exact hk _ _ hr
  | rejected e φ => exact .rejected e φ
  | pending after hstep _ ih => exact .pending after hstep ih

/-- The handler of an error takes over in any phase that the steps can lead to. It may make other
steps. -/
theorem Follows.recover_mono {step' : π → σ → σ → π → Prop} {S : π → Prop} {p : Async σ ε α}
    {k : ε → Async σ ε α} (hp : p.Follows step R φ)
    (hstep : ∀ φ s t φ', step φ s t φ' → step' φ s t φ') (hφ : S φ)
    (hS : ∀ φ s t φ', S φ → step φ s t φ' → S φ') (hk : ∀ e φ', S φ' → (k e).Follows step' R φ') :
    (p.recover k).Follows step' R φ := by
  induction hp with
  | fulfilled hr => exact .fulfilled hr
  | rejected e φ => exact hk e φ hφ
  | pending after h _ ih =>
    exact .pending after (fun s => hstep _ _ _ _ (h s)) fun s => ih s (hS _ _ _ _ hφ (h s))

theorem Follows.recover {S : π → Prop} {p : Async σ ε α} {k : ε → Async σ ε α}
    (hp : p.Follows step R φ) (hφ : S φ) (hS : ∀ φ s t φ', S φ → step φ s t φ' → S φ')
    (hk : ∀ e φ', S φ' → (k e).Follows step R φ') : (p.recover k).Follows step R φ :=
  hp.recover_mono (fun _ _ _ _ => id) hφ hS hk

theorem Follows.ite {c : Prop} [Decidable c] {p q : Async σ ε α} (hp : c → p.Follows step R φ)
    (hq : ¬ c → q.Follows step R φ) : (if c then p else q).Follows step R φ := by
  split
  · exact hp ‹_›
  · exact hq ‹_›

theorem follows_statement_bind {f : σ → β × σ} {k : β → Async σ ε α} (after : σ → π)
    (hstep : ∀ s, step φ s (f s).2 (after s)) (hk : ∀ s, (k (f s).1).Follows step R (after s)) :
    (statement f >>= k).Follows step R φ :=
  .pending after hstep hk

theorem follows_query_bind {f : σ → β} {k : β → Async σ ε α} (hstep : ∀ s, step φ s s φ)
    (hk : ∀ s, (k (f s)).Follows step R φ) : (query f >>= k).Follows step R φ :=
  .pending (fun _ => φ) hstep hk

/-- The next phase may depend on what the statement answers. -/
theorem follows_answer {f : σ → β × σ} {k : β → Async σ ε α}
    (h : ∀ s b, (f s).1 = b → ∃ φ', step φ s (f s).2 φ' ∧ (k b).Follows step R φ') :
    (statement f >>= k).Follows step R φ :=
  .intro fun s => h s _ rfl

theorem follows_query {f : σ → β} {k : β → Async σ ε α}
    (h : ∀ s b, f s = b → ∃ φ', step φ s s φ' ∧ (k b).Follows step R φ') :
    (query f >>= k).Follows step R φ :=
  .intro fun s => h s _ rfl

theorem follows_statement {f : σ → α × σ} (after : σ → π) (hstep : ∀ s, step φ s (f s).2 (after s))
    (hr : ∀ s, R (f s).1 (after s)) : (statement f : Async σ ε α).Follows step R φ :=
  .pending after hstep fun s => .fulfilled (hr s)

/-- A part of a call in one phase. -/
theorem Obeys.follows {T : σ → σ → Prop} {p : Async σ ε α} (hp : p.Obeys (fun _ => True) T)
    (hT : ∀ s t, T s t → step φ s t φ) : p.Follows step (fun _ φ' => φ' = φ) φ := by
  induction hp with
  | fulfilled a => exact .fulfilled rfl
  | rejected e => exact .rejected e φ
  | pending ht _ ih =>
    exact .pending (fun _ => φ) (fun s => hT _ _ (ht s trivial)) fun s => ih s trivial

/-- A part of a call in one phase, whose answer tells nothing. -/
theorem Obeys.follows_bind {T : σ → σ → Prop} {p : Async σ ε β} {k : β → Async σ ε α}
    (hp : p.Obeys (fun _ => True) T) (hT : ∀ s t, T s t → step φ s t φ)
    (hk : ∀ b, (k b).Follows step R φ) : (p >>= k).Follows step R φ := by
  refine (hp.follows hT).bind fun b φ' hφ => ?_
  subst hφ
  exact hk b

end Async

/-! ### Counting the calls in a phase -/

/-- Just `n` calls are in the phase `x`. -/
def InPhase (φ : ℕ → π) (x : π) (n : ℕ) : Prop :=
  ∃ calls : Finset ℕ, (∀ i, i ∈ calls ↔ φ i = x) ∧ calls.card = n

namespace InPhase

variable {φ : ℕ → π} {x y : π} {n i : ℕ}

theorem zero (h : ∀ i, φ i ≠ x) : InPhase φ x 0 :=
  ⟨∅, fun i => by simp [h i], rfl⟩

theorem enter (h : InPhase φ x n) (hi : φ i ≠ x) : InPhase (Function.update φ i x) x (n + 1) := by
  obtain ⟨calls, hmem, hcard⟩ := h
  have hnot : i ∉ calls := fun h => hi ((hmem i).mp h)
  refine ⟨insert i calls, fun j => ?_, by rw [Finset.card_insert_of_notMem hnot, hcard]⟩
  by_cases hji : j = i
  · simp [hji]
  · simp [hji, hmem]

theorem leave (h : InPhase φ x n) (hi : φ i = x) (hy : y ≠ x) :
    ∃ m, n = m + 1 ∧ InPhase (Function.update φ i y) x m := by
  obtain ⟨calls, hmem, hcard⟩ := h
  have hin : i ∈ calls := (hmem i).mpr hi
  refine ⟨(calls.erase i).card, by rw [Finset.card_erase_add_one hin, hcard],
    calls.erase i, fun j => ?_, rfl⟩
  by_cases hji : j = i
  · simp [hji, hy]
  · simp [hji, hmem]

theorem other (h : InPhase φ x n) (hi : φ i ≠ x) (hy : y ≠ x) :
    InPhase (Function.update φ i y) x n := by
  obtain ⟨calls, hmem, hcard⟩ := h
  refine ⟨calls, fun j => ?_, hcard⟩
  by_cases hji : j = i
  · subst hji
    simp [hmem, hi, hy]
  · simp [hji, hmem]

end InPhase

namespace System

variable {M : System κ σ ε α} {C : Config κ σ ε α → Move κ σ → Prop} {s₀ : σ} {c : Config κ σ ε α}
  {step : π → σ → σ → π → Prop} {R : κ → α → π → Prop}

/-- An assignment of phases to the calls of a configuration; the calls that have not been started
are `idle`. -/
structure Phased (step : π → σ → σ → π → Prop) (R : κ → α → π → Prop) (idle : π)
    (c : Config κ σ ε α) (φ : ℕ → π) : Prop where
  follows : ∀ i th, c.threads i = some th → th.promise.Follows step (R th.call) (φ i)
  idle : ∀ i, c.threads i = none → φ i = idle

theorem Phased.returned {idle : π} {φ : ℕ → π} (h : Phased step R idle c φ) {i : ℕ} {call : κ}
    {a : α} (hi : c.Returned i call a) : R call a (φ i) := by
  cases h.follows i _ hi with
  | fulfilled hr => exact hr

/-- What a run keeps of the shared state and the phases of its calls. -/
structure Keeps (M : System κ σ ε α) (C : Config κ σ ε α → Move κ σ → Prop)
    (step : π → σ → σ → π → Prop) (entry : κ → π) (idle : π) (J : σ → (ℕ → π) → Prop) : Prop where
  start : ∀ s φ i call, J s φ → φ i = idle → J s (Function.update φ i (entry call))
  run : ∀ c i call effect next φ φ', C c (.run i) →
    c.threads i = some ⟨call, .pending effect next⟩ → J c.shared φ →
      step (φ i) c.shared (effect c.shared) φ' → J (effect c.shared) (Function.update φ i φ')
  interfere : ∀ s t φ, M.interfere s t → J s φ → J t φ

theorem Phased.update {idle : π} {φ : ℕ → π} (h : Phased step R idle c φ) {c' : Config κ σ ε α}
    {i : ℕ} {th : Thread κ σ ε α} {φ' : π}
    (hthreads : c'.threads = Function.update c.threads i (some th))
    (hth : th.promise.Follows step (R th.call) φ') :
    Phased step R idle c' (Function.update φ i φ') := by
  constructor
  · intro j th' hj
    rw [hthreads] at hj
    by_cases hji : j = i
    · subst hji
      rw [Function.update_self, Option.some.injEq] at hj
      subst hj
      rw [Function.update_self]
      exact hth
    · rw [Function.update_of_ne hji] at hj ⊢
      exact h.follows j th' hj
  · intro j hj
    rw [hthreads] at hj
    have hji : j ≠ i := by
      rintro rfl
      simp at hj
    rw [Function.update_of_ne hji] at hj ⊢
    exact h.idle j hj

/-- `Keeps` for an invariant whose steps may need the past of the call that is run: `Link` says what
a call's past and its phase have to do with each other. -/
structure KeepsPast (M : System κ σ ε α) (C : Config κ σ ε α → Move κ σ → Prop)
    (step : π → σ → σ → π → Prop) (Link : κ → List (σ × σ) → π → Prop) (entry : κ → π) (idle : π)
    (J : σ → (ℕ → π) → Prop) : Prop where
  enter : ∀ call, Link call [] (entry call)
  link : ∀ call h φ s t φ', Link call h φ → step φ s t φ' → Link call (h ++ [(s, t)]) φ'
  start : ∀ s φ i call, J s φ → φ i = idle → J s (Function.update φ i (entry call))
  run : ∀ c i call effect next φ φ', C c (.run i) →
    c.threads i = some ⟨call, .pending effect next⟩ → Link call (c.history i) (φ i) → J c.shared φ →
      step (φ i) c.shared (effect c.shared) φ' → J (effect c.shared) (Function.update φ i φ')
  interfere : ∀ s t φ, M.interfere s t → J s φ → J t φ

theorem Reach.phased_past {Link : κ → List (σ × σ) → π → Prop} {entry : κ → π} {idle : π}
    {J : σ → (ℕ → π) → Prop} (K : M.KeepsPast C step Link entry idle J)
    (hbody : ∀ call, (M.body call).Follows step (R call) (entry call))
    (h₀ : J s₀ fun _ => idle) (hc : M.Reach C s₀ c) :
    ∃ φ, Phased step R idle c φ ∧ J c.shared φ ∧
      ∀ i th, c.threads i = some th → Link th.call (c.history i) (φ i) := by
  induction hc with
  | init =>
    exact ⟨fun _ => idle, ⟨fun i th hi => by simp [Config.initial] at hi, fun _ _ => rfl⟩, h₀,
      fun i th hi => by simp [Config.initial] at hi⟩
  | @step c m c' hc hm hs ih =>
    obtain ⟨φ, hφ, hJ, hlink⟩ := ih
    cases hs with
    | @start i call hi =>
      refine ⟨_, hφ.update rfl (hbody call), K.start _ _ _ _ hJ (hφ.idle i hi), fun j th hj => ?_⟩
      by_cases hji : j = i
      · subst hji
        simp only [Function.update_self, Option.some.injEq] at hj ⊢
        subst hj
        have hnil : c.history j = [] := history_eq_nil_of_none hc hi
        exact (show Config.history _ j = [] from hnil) ▸ K.enter call
      · simp only [Function.update_of_ne hji] at hj ⊢
        exact hlink j th hj
    | @run i call effect next hi =>
      obtain ⟨φ', hstep, hnext⟩ := (hφ.follows i _ hi).run c.shared
      refine ⟨_, hφ.update rfl hnext, K.run c i call effect next φ φ' hm hi (hlink i _ hi) hJ hstep,
        fun j th hj => ?_⟩
      by_cases hji : j = i
      · subst hji
        simp only [Function.update_self, Option.some.injEq] at hj ⊢
        subst hj
        rw [Config.history_run]
        exact K.link call _ _ _ _ _ (hlink j _ hi) hstep
      · simp only [Function.update_of_ne hji] at hj ⊢
        rw [Config.history_run_of_ne c hji]
        exact hlink j th hj
    | interfere f hf => exact ⟨φ, ⟨hφ.follows, hφ.idle⟩, K.interfere _ _ _ hf hJ, hlink⟩

theorem Keeps.past {entry : κ → π} {idle : π} {J : σ → (ℕ → π) → Prop}
    (K : M.Keeps C step entry idle J) : M.KeepsPast C step (fun _ _ _ => True) entry idle J where
  enter _ := trivial
  link _ _ _ _ _ _ _ _ := trivial
  start := K.start
  run c i call effect next φ φ' hm hi _ := K.run c i call effect next φ φ' hm hi
  interfere := K.interfere

theorem Reach.phased {entry : κ → π} {idle : π} {J : σ → (ℕ → π) → Prop}
    (K : M.Keeps C step entry idle J)
    (hbody : ∀ call, (M.body call).Follows step (R call) (entry call))
    (h₀ : J s₀ fun _ => idle) (hc : M.Reach C s₀ c) :
    ∃ φ, Phased step R idle c φ ∧ J c.shared φ := by
  obtain ⟨φ, hφ, hJ, -⟩ := hc.phased_past K.past hbody h₀
  exact ⟨φ, hφ, hJ⟩

/-- What no call undoes in any of its phases still holds at the end of a run. -/
theorem Reach.phased_persists {entry : κ → π} {idle : π} {J : σ → (ℕ → π) → Prop}
    (K : M.Keeps C step entry idle J)
    (hbody : ∀ call, (M.body call).Follows step (R call) (entry call))
    (h₀ : J s₀ fun _ => idle) {G : σ → Prop}
    (hrun : ∀ s t φ i φ', J s φ → step (φ i) s t φ' → G s → G t)
    (hint : ∀ s t, M.interfere s t → G s → G t) (hc : M.Reach C s₀ c) :
    ∀ e ∈ c.log, G e.2.2 → G c.shared := by
  induction hc with
  | init => simp [Config.initial]
  | @step c m c' hc _ hs ih =>
    obtain ⟨φ, hφ, hJ⟩ := hc.phased K hbody h₀
    cases hs with
    | start call hi => exact ih
    | @run i call effect next hi =>
      obtain ⟨φ', hstep, -⟩ := (hφ.follows i _ hi).run c.shared
      intro e he hG
      rcases List.mem_append.mp he with he | he
      · exact hrun _ _ φ i φ' hJ hstep (ih e he hG)
      · rwa [List.mem_singleton.mp he] at hG
    | interfere f hf => exact fun e he hG => hint _ _ hf (ih e he hG)

end System

end Sampraan.Library
