import Sampraan.Library.Recall

/-!
Calls that act first and mark afterwards that they have acted. That such an act
is done only once takes more than a look at the mark: no call may have acted
and still be about to mark, or have failed to.
-/

namespace Sampraan.Library

variable {κ σ ε α : Type}

/-- The call that ran the statement `e` did `P` there. -/
def Config.Did (c : Config κ σ ε α) (P : κ → σ → σ → Prop) (e : ℕ × σ × σ) : Prop :=
  ∃ th ∈ (c.threads e.1).toList, P th.call e.2.1 e.2.2

/-- No statement of the call has marked. -/
def Config.Unmarked (c : Config κ σ ε α) (mark : κ → σ → σ → Prop) (i : ℕ) : Prop :=
  ∀ e ∈ c.log, e.1 = i → ¬ c.Did mark e

/-- The call acted at `e` and has not marked it. -/
def Config.Outstanding (c : Config κ σ ε α) (act mark : κ → σ → σ → Prop) (e : ℕ × σ × σ) : Prop :=
  c.Did act e ∧ ∀ e' ∈ c.log, e'.1 = e.1 → ¬ c.Did mark e'

instance (c : Config κ σ ε α) (P : κ → σ → σ → Prop) [∀ k s t, Decidable (P k s t)]
    (e : ℕ × σ × σ) : Decidable (c.Did P e) := by
  unfold Config.Did
  infer_instance

instance (c : Config κ σ ε α) (act mark : κ → σ → σ → Prop) [∀ k s t, Decidable (act k s t)]
    [∀ k s t, Decidable (mark k s t)] (e : ℕ × σ × σ) : Decidable (c.Outstanding act mark e) := by
  unfold Config.Outstanding
  infer_instance

instance (c : Config κ σ ε α) (mark : κ → σ → σ → Prop) [∀ k s t, Decidable (mark k s t)]
    (i : ℕ) : Decidable (c.Unmarked mark i) := by
  unfold Config.Unmarked
  infer_instance

theorem Config.did_iff {c : Config κ σ ε α} {P : κ → σ → σ → Prop} {e : ℕ × σ × σ} {call : κ}
    {p : Async σ ε α} (hi : c.threads e.1 = some ⟨call, p⟩) : c.Did P e ↔ P call e.2.1 e.2.2 := by
  simp [Config.Did, hi]

namespace System

variable {M : System κ σ ε α} {C : Config κ σ ε α → Move κ σ → Prop} {s₀ : σ} {c c' : Config κ σ ε α}
  {act mark : κ → σ → σ → Prop} {marked : σ → Prop}

/-- In the runs from `s₀` that meet `C`, a call that marks makes `marked` true for good. -/
structure Marking (M : System κ σ ε α) (C : Config κ σ ε α → Move κ σ → Prop) (s₀ : σ)
    (mark : κ → σ → σ → Prop) (marked : σ → Prop) : Prop where
  keep : ∀ c i call effect next, M.Reach C s₀ c → C c (.run i) →
    c.threads i = some ⟨call, .pending effect next⟩ → marked c.shared → marked (effect c.shared)
  interfere : ∀ s t, M.interfere s t → marked s → marked t
  mark : ∀ c i call effect next, M.Reach C s₀ c → C c (.run i) →
    c.threads i = some ⟨call, .pending effect next⟩ → mark call c.shared (effect c.shared) →
      marked (effect c.shared)

theorem Continues.did_iff (h : Continues c c') {e : ℕ × σ × σ} {th : Thread κ σ ε α}
    (hi : c.threads e.1 = some th) {P : κ → σ → σ → Prop} : c'.Did P e ↔ c.Did P e := by
  obtain ⟨p, hp, -⟩ := h.threads _ _ hi
  rw [Config.did_iff hp, Config.did_iff hi]

theorem Reach.did_iff (hc : M.Reach C s₀ c) (h : Continues c c') {e : ℕ × σ × σ} (he : e ∈ c.log)
    {P : κ → σ → σ → Prop} : c'.Did P e ↔ c.Did P e := by
  obtain ⟨th, hth⟩ := hc.log_thread he
  exact h.did_iff hth

theorem Marking.stays (K : M.Marking C s₀ mark marked) (hc : M.Reach C s₀ c) :
    ∀ e ∈ c.log, c.Did mark e → marked c.shared := by
  induction hc with
  | init => simp [Config.initial]
  | @step c m c' hc hm hs ih =>
    have hsame : ∀ e ∈ c.log, (c'.Did mark e ↔ c.Did mark e) := fun e he =>
      hc.did_iff hs.continues he
    cases hs with
    | start call hi =>
      intro e he hd
      exact ih e he ((hsame e he).mp hd)
    | @run i call effect next hi =>
      intro e he hd
      rcases List.mem_append.mp he with he | he
      · exact K.keep c i call effect next hc hm hi (ih e he ((hsame e he).mp hd))
      · rw [List.mem_singleton.mp he, Config.did_iff (Function.update_self ..)] at hd
        exact K.mark c i call effect next hc hm hi hd
    | interfere f hf =>
      intro e he hd
      exact K.interfere _ _ hf (ih e he hd)

/-- Calls that act only while nothing is marked or left unmarked act at most once. What counts as
an act may show only in the call's history, as long as it does not become one later. -/
theorem Marking.once_of_stable (K : M.Marking C s₀ mark marked) (hc : M.Reach C s₀ c)
    (act : Config κ σ ε α → ℕ × σ × σ → Prop)
    (hstable : ∀ c c' e, M.Reach C s₀ c → Continues c c' → e ∈ c.log → act c' e → act c e)
    (hact : ∀ c c' i e, M.Reach C s₀ c → C c (.run i) → M.Step c (.run i) c' →
      c'.log = c.log ++ [e] → act c' e →
        ¬ marked c.shared ∧ ∀ e ∈ c.log, act c e → ¬ c.Unmarked mark e.1) :
    AtMostOnce (act c) c.log := by
  induction hc with
  | init => exact .nil
  | @step c m c' hc hm hs ih =>
    have hcont := hs.continues
    have hold : AtMostOnce (act c') c.log := by
      apply List.Pairwise.imp_of_mem _ ih
      intro e e' he he' hnot hboth
      exact hnot ⟨hstable c c' e hc hcont he hboth.1, hstable c c' e' hc hcont he' hboth.2⟩
    cases hs with
    | start call hi => exact hold
    | @run i call effect next hi =>
      refine List.pairwise_append.mpr ⟨hold, List.pairwise_singleton _ _, ?_⟩
      rintro e he e' he' ⟨hd, hd'⟩
      rw [List.mem_singleton.mp he'] at hd'
      obtain ⟨hunmarked, hnone⟩ := hact c _ i _ hc hm (.run hi) rfl hd'
      refine hnone e he (hstable c _ e hc hcont he hd) fun e' he' _ hmark => ?_
      exact hunmarked (K.stays hc e' he' hmark)
    | interfere f hf => exact hold

/-- A call that acts only while nothing is marked or outstanding acts at most once. -/
theorem Marking.once (K : M.Marking C s₀ mark marked) (hc : M.Reach C s₀ c)
    (hact : ∀ c i call effect next, M.Reach C s₀ c → C c (.run i) →
      c.threads i = some ⟨call, .pending effect next⟩ → act call c.shared (effect c.shared) →
        ¬ marked c.shared ∧ ∀ e ∈ c.log, ¬ c.Outstanding act mark e) :
    AtMostOnce (c.Did act) c.log := by
  apply K.once_of_stable hc fun c e => c.Did act e
  · intro c c' e hc hcont he hd
    exact (hc.did_iff hcont he).mp hd
  · intro c c' i e hc hm hs hlog hd
    cases hs with
    | @run _ call effect next hi =>
      obtain rfl := List.singleton_injective (List.append_cancel_left hlog)
      rw [Config.did_iff (Function.update_self ..)] at hd
      obtain ⟨hunmarked, hnone⟩ := hact c i call effect next hc hm hi hd
      exact ⟨hunmarked, fun e he hdid hun => hnone e he ⟨hdid, hun⟩⟩

/-- A call that marks only while nothing is marked does so at most once. -/
theorem Marking.once_of_unmarked (K : M.Marking C s₀ mark marked) (hc : M.Reach C s₀ c)
    (hmark : ∀ c i call effect next, M.Reach C s₀ c → C c (.run i) →
      c.threads i = some ⟨call, .pending effect next⟩ → mark call c.shared (effect c.shared) →
        ¬ marked c.shared) : AtMostOnce (c.Did mark) c.log := by
  apply K.once hc
  intro c i call effect next hc hm hi hdid
  exact ⟨hmark c i call effect next hc hm hi hdid, fun e he ho => ho.2 e he rfl ho.1⟩

end System

end Sampraan.Library
