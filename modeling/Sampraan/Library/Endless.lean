import Sampraan.Library.Interleaving

/-! Runs without end. Of such a run only some moments are seen, each one later than the one before. -/

namespace Sampraan.Library.System

open Relation

variable {κ σ ε α : Type} {M : System κ σ ε α} {C : Config κ σ ε α → Move κ σ → Prop} {s₀ : σ}
  {c c' : Config κ σ ε α} {run : ℕ → Config κ σ ε α}

/-- What no move undoes is still so in the states that a call started later finds. -/
theorem Leads.found_later {G : σ → Prop}
    (hG : ∀ c m c', M.Reach C s₀ c → M.Step c m c' → G c.shared → G c'.shared)
    (hc : M.Reach C s₀ c) (h : M.Leads C c c') (hs : G c.shared) {i : ℕ} (hi : c.threads i = none) :
    G c'.shared ∧ ∀ e ∈ c'.history i, G e.1 := by
  induction h with
  | refl =>
    refine ⟨hs, fun e he => ?_⟩
    rw [history_eq_nil_of_none hc hi] at he
    cases he
  | @tail b c' hlead hstep ih =>
    obtain ⟨m, -, hm⟩ := hstep
    obtain ⟨hshared, hfound⟩ := ih
    refine ⟨hG b m c' (hc.leads hlead) hm hshared, fun e he => ?_⟩
    cases hm with
    | start call hj => exact hfound e he
    | @run j call effect next hj =>
      rcases List.mem_append.mp (Config.mem_history.mp he) with hold | hlast
      · exact hfound e (Config.mem_history.mpr hold)
      · obtain ⟨-, rfl⟩ := Prod.mk.inj (List.mem_singleton.mp hlast)
        exact hshared
    | interfere f hf => exact hfound e he

/-- A new call is made and run to its end while nothing else happens. -/
theorem Reach.leads_call {D : σ → Prop} {call : κ} {h : List (σ × σ)} {o : Except ε α}
    (hstart : ∀ c i, C c (.start i call))
    (hrun : ∀ c i p, c.threads i = some ⟨call, p⟩ → D c.shared → C c (.run i))
    (hc : M.Reach C s₀ c) (hp : (M.body call).Settles Eq c.shared h o) (hD : ∀ e ∈ h, D e.1) :
    ∃ i c', c.threads i = none ∧ M.Leads C c c' ∧ c'.shared = Async.lastState c.shared h ∧
      c'.threads i = some ⟨call, Async.ofExcept o⟩ ∧ c'.history i = h := by
  obtain ⟨i, hfree⟩ := hc.exists_free
  have hi : c.threads i = none := hfree i (Nat.le_refl i)
  obtain ⟨c', hlead, hthreads, hshared, hlog⟩ :=
    leads_settles (M := M) (i := i) (fun c p => hrun c i p)
      (c := { c with threads := Function.update c.threads i (some ⟨call, M.body call⟩) })
      (Function.update_self ..) hp hD
  refine ⟨i, c', hi, .head ⟨.start i call, hstart c i, .start call hi⟩ hlead, hshared, ?_, ?_⟩
  · rw [hthreads, Function.update_self]
  · have hnil : c.log.filterMap (fun e => if e.1 = i then some e.2 else none) = [] :=
      history_eq_nil_of_none hc hi
    have hall : (h.map (Prod.mk i)).filterMap (fun e => if e.1 = i then some e.2 else none) = h := by
      simp [List.filterMap_map]
    rw [Config.history, hlog, List.filterMap_append, hnil, hall, List.nil_append]

structure Endless (M : System κ σ ε α) (C : Config κ σ ε α → Move κ σ → Prop) (s₀ : σ)
    (run : ℕ → Config κ σ ε α) : Prop where
  start : run 0 = Config.initial s₀
  next : ∀ n, M.Leads C (run n) (run (n + 1))

theorem Endless.leads (h : M.Endless C s₀ run) {n m : ℕ} (hnm : n ≤ m) : M.Leads C (run n) (run m) := by
  induction hnm with
  | refl => exact .refl
  | step _ ih => exact ih.trans (h.next _)

theorem Endless.reach (h : M.Endless C s₀ run) (n : ℕ) : M.Reach C s₀ (run n) :=
  Reach.leads (h.start ▸ .init) (h.leads n.zero_le)

/-- When each configuration with `P` leads to another one by `Q`, they go on so without end. -/
theorem exists_endless {P : Config κ σ ε α → Prop} {Q : Config κ σ ε α → Config κ σ ε α → Prop}
    (h₀ : M.Leads C (Config.initial s₀) c) (hc : P c)
    (hnext : ∀ c, M.Reach C s₀ c → P c → ∃ c', M.Leads C c c' ∧ P c' ∧ Q c c') :
    ∃ run, M.Endless C s₀ run ∧ run 1 = c ∧
      ∀ n, P (run (n + 1)) ∧ Q (run (n + 1)) (run (n + 2)) := by
  let Stage := { c : Config κ σ ε α // M.Reach C s₀ c ∧ P c }
  have hstage : ∀ x : Stage, ∃ y : Stage, M.Leads C x.1 y.1 ∧ Q x.1 y.1 := by
    rintro ⟨c, hreach, hP⟩
    obtain ⟨c', hlead, hP', hQ⟩ := hnext c hreach hP
    exact ⟨⟨c', hreach.leads hlead, hP'⟩, hlead, hQ⟩
  choose after hlead hQ using hstage
  let stages : ℕ → Stage := fun n => n.rec ⟨c, Reach.leads .init h₀, hc⟩ fun _ => after
  refine ⟨fun n => n.casesOn (Config.initial s₀) fun n => (stages n).1, ⟨rfl, fun n => ?_⟩,
    rfl, fun n => ⟨(stages n).2.2, hQ (stages n)⟩⟩
  cases n with
  | zero => exact h₀
  | succ n => exact hlead (stages n)

end Sampraan.Library.System
