import Sampraan.Library.Interleaving
import Mathlib.Algebra.Group.Nat.Even

/-!
What a statement of a call does, in terms of the statements that the same call
has run before it. The past of a call is a part of the log, so what a call has
found there it has found in states of the run.
-/

namespace Sampraan.Library

open Relation

namespace Async

variable {σ ε α β : Type}

/-- After the statements `h`, every statement the call can ever run meets `Q`, whose first argument
is the call's past; and when the call is fulfilled, its value and its past by then meet `R`. -/
inductive Yields (Q : List (σ × σ) → σ → σ → Prop) (R : α → List (σ × σ) → Prop) :
    Async σ ε α → List (σ × σ) → Prop
  | fulfilled {a : α} {h : List (σ × σ)} (hr : R a h) : Yields Q R (.fulfilled a) h
  | rejected (e : ε) (h : List (σ × σ)) : Yields Q R (.rejected e) h
  | pending {effect : σ → σ} {next : σ → Async σ ε α} {h : List (σ × σ)}
    (hq : ∀ s, Q h s (effect s)) (hn : ∀ s, Yields Q R (next s) (h ++ [(s, effect s)])) :
    Yields Q R (.pending effect next) h

abbrev Recalls (Q : List (σ × σ) → σ → σ → Prop) (p : Async σ ε α) (h : List (σ × σ)) : Prop :=
  p.Yields Q (fun _ _ => True) h

variable {Q : List (σ × σ) → σ → σ → Prop} {R : α → List (σ × σ) → Prop} {h h' : List (σ × σ)}

theorem Yields.step {effect : σ → σ} {next : σ → Async σ ε α}
    (hp : (Async.pending effect next).Yields Q R h) (s : σ) :
    Q h s (effect s) ∧ (next s).Yields Q R (h ++ [(s, effect s)]) := by
  cases hp with
  | pending hq hn => exact ⟨hq s, hn s⟩

theorem Yields.weaken {R' : α → List (σ × σ) → Prop} {p : Async σ ε α} (hp : p.Yields Q R h)
    (hR : ∀ a h', R a h' → R' a h') : p.Yields Q R' h := by
  induction hp with
  | fulfilled hr => exact .fulfilled (hR _ _ hr)
  | rejected e h => exact .rejected e h
  | pending hq _ ih => exact .pending hq ih

theorem Yields.and {R' : α → List (σ × σ) → Prop} {p : Async σ ε α} (hp : p.Yields Q R h)
    (hp' : p.Yields Q R' h) : p.Yields Q (fun a h' => R a h' ∧ R' a h') h := by
  induction hp with
  | fulfilled hr =>
    cases hp' with
    | fulfilled hr' => exact .fulfilled ⟨hr, hr'⟩
  | rejected e h => exact .rejected e h
  | pending hq _ ih => exact .pending hq fun s => ih s (hp'.step s).2

theorem Recalls.mono {Q' : List (σ × σ) → σ → σ → Prop} {p : Async σ ε α} (hp : p.Recalls Q h)
    (hQ : ∀ h s t, Q h s t → Q' h s t) : p.Recalls Q' h := by
  induction hp with
  | fulfilled hr => exact .fulfilled hr
  | rejected e h => exact .rejected e h
  | pending hq _ ih => exact .pending (fun s => hQ _ _ _ (hq s)) ih

theorem Recalls.obeys {I : σ → Prop} {T : σ → σ → Prop} {p : Async σ ε α} (hp : p.Recalls Q h)
    (hQ : ∀ h s t, I s → Q h s t → T s t) : p.Obeys I T := by
  induction hp with
  | fulfilled hr => exact .fulfilled _
  | rejected e h => exact .rejected e
  | pending hq _ ih => exact .pending (fun s hs => hQ _ _ _ hs (hq s)) fun s _ => ih s

theorem yields_trivial (p : Async σ ε α) (h : List (σ × σ)) :
    p.Yields (fun _ _ _ => True) (fun _ _ => True) h := by
  induction p generalizing h with
  | fulfilled a => exact .fulfilled trivial
  | rejected e => exact .rejected e h
  | pending effect next ih => exact .pending (fun _ => trivial) fun s => ih s _

theorem Yields.ite {c : Prop} [Decidable c] {p q : Async σ ε α} (hp : c → p.Yields Q R h)
    (hq : ¬ c → q.Yields Q R h) : (if c then p else q).Yields Q R h := by
  split
  · exact hp ‹_›
  · exact hq ‹_›

theorem yields_statement {f : σ → α × σ} (hq : ∀ s, Q h s (f s).2)
    (hr : ∀ s, R (f s).1 (h ++ [(s, (f s).2)])) : (statement f : Async σ ε α).Yields Q R h :=
  .pending hq fun s => .fulfilled (hr s)

theorem yields_query {f : σ → α} (hq : ∀ s, Q h s s) (hr : ∀ s, R (f s) (h ++ [(s, s)])) :
    (query f : Async σ ε α).Yields Q R h :=
  .pending hq fun s => .fulfilled (hr s)

section

variable {R' : β → List (σ × σ) → Prop}

theorem Yields.bind {p : Async σ ε α} {k : α → Async σ ε β} (hp : p.Yields Q R h)
    (hk : ∀ a h', R a h' → (k a).Yields Q R' h') : (p >>= k).Yields Q R' h := by
  induction hp with
  | fulfilled hr => exact hk _ _ hr
  | rejected e h => exact .rejected e h
  | pending hq _ ih => exact .pending hq ih

theorem yields_statement_bind {f : σ → β × σ} {k : β → Async σ ε α} (hq : ∀ s, Q h s (f s).2)
    (hk : ∀ s, (k (f s).1).Yields Q R (h ++ [(s, (f s).2)])) : (statement f >>= k).Yields Q R h :=
  .pending hq hk

theorem yields_query_bind {f : σ → β} {k : β → Async σ ε α} (hq : ∀ s, Q h s s)
    (hk : ∀ s, (k (f s)).Yields Q R (h ++ [(s, s)])) : (query f >>= k).Yields Q R h :=
  .pending hq hk

end

theorem Yields.recover {p : Async σ ε α} {k : ε → Async σ ε α} (hp : p.Yields Q R h)
    (hk : ∀ e h', h <+: h' → (k e).Yields Q R h') : (p.recover k).Yields Q R h := by
  induction hp with
  | fulfilled hr => exact .fulfilled hr
  | rejected e h => exact hk e h (List.prefix_refl h)
  | pending hq _ ih =>
    exact .pending hq fun s => ih s fun e h' hh => hk e h' ((List.prefix_append _ _).trans hh)

/-- What a call has run by the end continues what it had run before. -/
theorem Yields.extends {p : Async σ ε α} (hp : p.Yields Q R h) :
    p.Yields Q (fun a h' => h <+: h' ∧ R a h') h := by
  suffices ∀ h₀, h₀ <+: h → p.Yields Q (fun a h' => h₀ <+: h' ∧ R a h') h from
    this h (List.prefix_refl h)
  induction hp with
  | fulfilled hr => exact fun h₀ hh => .fulfilled ⟨hh, hr⟩
  | rejected e h => exact fun h₀ _ => .rejected e h
  | pending hq _ ih =>
    intro h₀ hh
    exact .pending hq fun s => ih s h₀ (hh.trans (List.prefix_append _ _))

/-- For a part of a call whose answer tells nothing. -/
theorem Recalls.bind {R' : β → List (σ × σ) → Prop} {p : Async σ ε α} {k : α → Async σ ε β}
    (hp : p.Recalls Q h) (hk : ∀ a h', h ⊆ h' → (k a).Yields Q R' h') :
    (p >>= k).Yields Q R' h :=
  Yields.bind (Yields.extends hp) fun a h' hh => hk a h' hh.1.subset

/-- What holds of all that can follow holds when the call is fulfilled. -/
theorem Recalls.yields {p : Async σ ε α} (hp : p.Recalls Q h) (hR : ∀ a h', h ⊆ h' → R a h') :
    p.Yields Q R h :=
  (Yields.extends hp).weaken fun a h' hh => hR a h' hh.1.subset

/-- A statement of the call may take its past to continue what the call had run before. -/
theorem Recalls.since {p : Async σ ε α} (hp : p.Recalls (fun h' s t => h <+: h' → Q h' s t) h) :
    p.Recalls Q h := by
  suffices ∀ h₀, h₀ <+: h → p.Recalls (fun h' s t => h₀ <+: h' → Q h' s t) h → p.Recalls Q h from
    this h (List.prefix_refl h) hp
  clear hp
  intro h₀ hh hp
  induction hp with
  | fulfilled hr => exact .fulfilled hr
  | rejected e h => exact .rejected e h
  | pending hq _ ih =>
    exact .pending (fun s => hq s hh) fun s => ih s (hh.trans (List.prefix_append _ _))

theorem Obeys.recalls {T : σ → σ → Prop} {p : Async σ ε α} (hp : p.Obeys (fun _ => True) T)
    (hQ : ∀ h s t, T s t → Q h s t) (h : List (σ × σ)) : p.Recalls Q h := by
  induction hp generalizing h with
  | fulfilled a => exact .fulfilled trivial
  | rejected e => exact .rejected e h
  | pending ht _ ih =>
    exact .pending (fun s => hQ h _ _ (ht s trivial)) fun s => ih s trivial _

/-- A part of a call all of whose statements make steps of `T`. -/
theorem Obeys.yields {T : σ → σ → Prop} {p : Async σ ε α} (hp : p.Obeys (fun _ => True) T)
    (hQ : ∀ h s t, T s t → Q h s t) (h : List (σ × σ)) :
    p.Yields Q (fun _ h' => h <+: h' ∧ ∀ e ∈ h', e ∈ h ∨ T e.1 e.2) h := by
  suffices ∀ h₀, h₀ <+: h → (∀ e ∈ h, e ∈ h₀ ∨ T e.1 e.2) →
      p.Yields Q (fun _ h' => h₀ <+: h' ∧ ∀ e ∈ h', e ∈ h₀ ∨ T e.1 e.2) h from
    this h (List.prefix_refl h) fun e he => .inl he
  induction hp generalizing h with
  | fulfilled a => exact fun h₀ hh hall => .fulfilled ⟨hh, hall⟩
  | rejected e => exact fun h₀ _ _ => .rejected e h
  | @pending effect next ht _ ih =>
    intro h₀ hh hall
    refine .pending (fun s => hQ h _ _ (ht s trivial)) fun s =>
      ih s trivial _ h₀ (hh.trans (List.prefix_append _ _)) fun e he => ?_
    rcases List.mem_append.mp he with he | he
    · exact hall e he
    · rw [List.mem_singleton.mp he]
      exact .inr (ht s trivial)

/-- What the statements of a part of a call do not add to, the call's past shows as it did. -/
theorem Obeys.yields_same {T : σ → σ → Prop} {f : List (σ × σ) → β} {p : Async σ ε α}
    (hp : p.Obeys (fun _ => True) T) (hQ : ∀ h s t, T s t → Q h s t)
    (hf : ∀ h s t, T s t → f (h ++ [(s, t)]) = f h) (h : List (σ × σ)) :
    p.Yields Q (fun _ h' => h <+: h' ∧ f h' = f h) h := by
  suffices ∀ h₀, h₀ <+: h → f h = f h₀ → p.Yields Q (fun _ h' => h₀ <+: h' ∧ f h' = f h₀) h from
    this h (List.prefix_refl h) rfl
  induction hp generalizing h with
  | fulfilled a => exact fun h₀ hh hsame => .fulfilled ⟨hh, hsame⟩
  | rejected e => exact fun h₀ _ _ => .rejected e h
  | pending ht _ ih =>
    intro h₀ hh hsame
    exact .pending (fun s => hQ h _ _ (ht s trivial)) fun s =>
      ih s trivial _ h₀ (hh.trans (List.prefix_append _ _)) ((hf h _ _ (ht s trivial)).trans hsame)

/-! ### What a call has come to -/

/-- What is left of the call after statements that found the states of `h`. -/
def after : Async σ ε α → List (σ × σ) → Async σ ε α
  | .pending _ next, e :: h => (next e.1).after h
  | p, _ => p

theorem after_fulfilled (a : α) (h : List (σ × σ)) :
    (Async.fulfilled a : Async σ ε α).after h = .fulfilled a := by
  cases h <;> rfl

theorem after_rejected (e : ε) (h : List (σ × σ)) :
    (Async.rejected e : Async σ ε α).after h = .rejected e := by
  cases h <;> rfl

theorem after_nil (p : Async σ ε α) : p.after [] = p := by
  cases p <;> rfl

theorem after_append (p : Async σ ε α) (h h' : List (σ × σ)) :
    p.after (h ++ h') = (p.after h).after h' := by
  induction p generalizing h with
  | fulfilled a => simp only [after_fulfilled]
  | rejected e => simp only [after_rejected]
  | pending effect next ih =>
    cases h with
    | nil => rfl
    | cons e h => exact ih e.1 h

theorem after_statement_bind (f : σ → β × σ) (k : β → Async σ ε α) (e : σ × σ) (h : List (σ × σ)) :
    (statement f >>= k).after (e :: h) = (k (f e.1).1).after h := rfl

theorem after_query_bind (f : σ → β) (k : β → Async σ ε α) (e : σ × σ) (h : List (σ × σ)) :
    (query f >>= k).after (e :: h) = (k (f e.1)).after h := rfl

theorem statement_bind_eq {f : σ → β × σ} {k : β → Async σ ε α} {effect : σ → σ}
    {next : σ → Async σ ε α} (h : (statement f >>= k).after [] = .pending effect next) :
    effect = (fun s => (f s).2) ∧ next = fun s => k (f s).1 := by
  obtain ⟨heffect, hnext⟩ := Async.pending.inj h
  exact ⟨heffect.symm, hnext.symm⟩

theorem query_bind_eq {f : σ → β} {k : β → Async σ ε α} {effect : σ → σ} {next : σ → Async σ ε α}
    (h : (query f >>= k).after [] = .pending effect next) :
    effect = id ∧ next = fun s => k (f s) :=
  statement_bind_eq (f := fun s => (f s, s)) h

/-- A call that has been fulfilled stays so. -/
theorem after_mono {p : Async σ ε α} {a : α} (hp : p.after h = .fulfilled a) (hh : h <+: h') :
    p.after h' = .fulfilled a := by
  obtain ⟨rest, rfl⟩ := hh
  rw [after_append, hp, after_fulfilled]

/-- The answer of a part of a call can be told from what the part has run. -/
theorem Yields.after {p : Async σ ε α} (hp : p.Yields Q R []) :
    p.Yields Q (fun a h' => p.after h' = .fulfilled a ∧ R a h') [] := by
  suffices ∀ (q : Async σ ε α) h, p.after h = q → q.Yields Q R h →
      q.Yields Q (fun a h' => p.after h' = .fulfilled a ∧ R a h') h from
    this p [] (after_nil p) hp
  intro q h hq hp
  induction hp with
  | fulfilled hr => exact .fulfilled ⟨hq, hr⟩
  | rejected e h => exact .rejected e h
  | pending hq' _ ih =>
    refine .pending hq' fun s => ih s ?_
    rw [after_append, hq]
    exact after_nil _

/-- A part of a call keeps up what all the statements before it met. -/
theorem Yields.keeps {T : σ → σ → Prop} {p : Async σ ε α} (hp : p.Yields Q R h)
    (hT : p.Obeys (fun _ => True) T) (hall : ∀ e ∈ h, T e.1 e.2) :
    p.Yields Q (fun a h' => (∀ e ∈ h', T e.1 e.2) ∧ R a h') h := by
  induction hp with
  | fulfilled hr => exact .fulfilled ⟨hall, hr⟩
  | rejected e h => exact .rejected e h
  | pending hq _ ih =>
    refine .pending hq fun s => ih s (hT.step trivial).2 fun e he => ?_
    rcases List.mem_append.mp he with he | he
    · exact hall e he
    · rw [List.mem_singleton.mp he]
      exact (hT.step trivial).1

/-! ### Statements that a call has run -/

/-- The call has run a statement that, with its own past, met `F`. -/
def Passed (F : List (σ × σ) → σ → σ → Prop) (h : List (σ × σ)) : Prop :=
  ∃ h₁ s t, h₁ ++ [(s, t)] <+: h ∧ F h₁ s t

theorem Passed.mono {F : List (σ × σ) → σ → σ → Prop} (hF : Passed F h) (hh : h <+: h') :
    Passed F h' := by
  obtain ⟨h₁, s, t, hpre, hf⟩ := hF
  exact ⟨h₁, s, t, hpre.trans hh, hf⟩

theorem Passed.mem {F : List (σ × σ) → σ → σ → Prop} (hF : Passed F h) :
    ∃ e ∈ h, ∃ h₁, F h₁ e.1 e.2 := by
  obtain ⟨h₁, s, t, hpre, hf⟩ := hF
  exact ⟨(s, t), hpre.subset (by simp), h₁, hf⟩

theorem Passed.imp {F F' : List (σ × σ) → σ → σ → Prop} (hF : Passed F h)
    (himp : ∀ h₁ s t, F h₁ s t → F' h₁ s t) : Passed F' h := by
  obtain ⟨h₁, s, t, hpre, hf⟩ := hF
  exact ⟨h₁, s, t, hpre, himp _ _ _ hf⟩

theorem passed_now {F : List (σ × σ) → σ → σ → Prop} {s t : σ} (hF : F h s t) :
    Passed F (h ++ [(s, t)]) :=
  ⟨h, s, t, List.prefix_refl _, hF⟩

/-! ### Failures as answers -/

def outcome (p : Async σ ε α) : Async σ ε (Except ε α) :=
  (p >>= fun a => pure (.ok a)).recover fun error => pure (.error error)

theorem outcome_pure (a : α) : (pure a : Async σ ε α).outcome = pure (.ok a) := rfl

theorem outcome_throw (error : ε) : (throw error : Async σ ε α).outcome = pure (.error error) := rfl

theorem outcome_query_bind (f : σ → β) (k : β → Async σ ε α) :
    (query f >>= k).outcome = query f >>= fun b => (k b).outcome := rfl

theorem outcome_statement_bind (f : σ → β × σ) (k : β → Async σ ε α) :
    (statement f >>= k).outcome = statement f >>= fun b => (k b).outcome := rfl

theorem outcome_ite {c : Prop} [Decidable c] (p q : Async σ ε α) :
    (if c then p else q).outcome = if c then p.outcome else q.outcome :=
  apply_ite outcome c p q

theorem outcome_bind (p : Async σ ε α) (k : α → Async σ ε β) :
    (p >>= k).outcome = p.outcome >>= fun o =>
      match o with
      | .ok a => (k a).outcome
      | .error error => pure (.error error) := by
  induction p with
  | fulfilled a => rfl
  | rejected error => rfl
  | pending effect next ih =>
    change Async.pending effect (fun s => (next s >>= k).outcome) = .pending effect _
    congr
    funext s
    exact ih s

theorem outcome_recover (p : Async σ ε α) (k : ε → Async σ ε α) :
    (p.recover k).outcome = p.outcome >>= fun o =>
      match o with
      | .ok a => pure (.ok a)
      | .error error => (k error).outcome := by
  induction p with
  | fulfilled a => rfl
  | rejected error => rfl
  | pending effect next ih =>
    change Async.pending effect (fun s => ((next s).recover k).outcome) = .pending effect _
    congr
    funext s
    exact ih s

theorem Yields.of_outcome {R : Except ε α → List (σ × σ) → Prop} {p : Async σ ε α}
    (hp : p.outcome.Yields Q R h) : p.Yields Q (fun a h' => R (.ok a) h') h := by
  induction p generalizing h with
  | fulfilled a =>
    cases hp with
    | fulfilled hr => exact .fulfilled hr
  | rejected error => exact .rejected error h
  | pending effect next ih =>
    have hp : (Async.pending effect fun s => (next s).outcome).Yields Q R h := hp
    exact .pending (fun s => (hp.step s).1) fun s => ih s (hp.step s).2

end Async

/-- The statements of the call `i` in a part of a log. -/
def pastOf {σ : Type} (log : List (ℕ × σ × σ)) (i : ℕ) : List (σ × σ) :=
  log.filterMap fun e => if e.1 = i then some e.2 else none

/-- Every statement that was run meets `P`. -/
def Config.Each {κ σ ε α : Type} (c : Config κ σ ε α) (P : κ → σ → σ → Prop) : Prop :=
  ∀ e ∈ c.log, ∀ th, c.threads e.1 = some th → P th.call e.2.1 e.2.2

/-- Every statement of the call `i` came before the first one of the call `j`. -/
def Config.Before {κ σ ε α : Type} (c : Config κ σ ε α) (i j : ℕ) : Prop :=
  ∃ before after, c.log = before ++ after ∧ (∀ e ∈ before, e.1 ≠ j) ∧ ∀ e ∈ after, e.1 ≠ i

instance Config.Each.decidable {κ σ ε α : Type} (c : Config κ σ ε α) (P : κ → σ → σ → Prop)
    [∀ k s t, Decidable (P k s t)] : Decidable (c.Each P) :=
  decidable_of_iff (∀ e ∈ c.log, ∀ th ∈ (c.threads e.1).toList, P th.call e.2.1 e.2.2)
    (by simp only [Config.Each, Option.mem_toList])

theorem Config.history_run {κ σ ε α : Type} (c : Config κ σ ε α) (i : ℕ) (s t u : σ)
    (threads : ℕ → Option (Thread κ σ ε α)) :
    (⟨u, threads, c.log ++ [(i, s, t)]⟩ : Config κ σ ε α).history i = c.history i ++ [(s, t)] := by
  simp [Config.history]

theorem Config.history_run_of_ne {κ σ ε α : Type} (c : Config κ σ ε α) {i j : ℕ} (hij : j ≠ i)
    (s t u : σ) (threads : ℕ → Option (Thread κ σ ε α)) :
    (⟨u, threads, c.log ++ [(i, s, t)]⟩ : Config κ σ ε α).history j = c.history j := by
  simp [Config.history, Ne.symm hij]

namespace System

variable {κ σ ε α : Type} {M : System κ σ ε α} {C : Config κ σ ε α → Move κ σ → Prop} {s₀ : σ}
  {c : Config κ σ ε α} {Q : κ → List (σ × σ) → σ → σ → Prop}

theorem Reach.yields (hc : M.Reach C s₀ c) {R : κ → α → List (σ × σ) → Prop}
    (hQ : ∀ call, (M.body call).Yields (Q call) (R call) [])
    {i : ℕ} {th : Thread κ σ ε α} (hi : c.threads i = some th) :
    th.promise.Yields (Q th.call) (R th.call) (c.history i) := by
  induction hc generalizing i th with
  | init => simp [Config.initial] at hi
  | @step c m c' hc _ hs ih =>
    cases hs with
    | @start j call hj =>
      by_cases hij : i = j
      · subst hij
        simp only [Function.update_self, Option.some.injEq] at hi
        subst hi
        have hnil : c.history i = [] := history_eq_nil_of_none hc hj
        simp only [Config.history] at hnil ⊢
        rw [hnil]
        exact hQ call
      · exact ih (by simpa [Function.update_of_ne hij] using hi)
    | @run j call effect next hj =>
      by_cases hij : i = j
      · subst hij
        simp only [Function.update_self, Option.some.injEq] at hi
        subst hi
        have hstep := ((ih hj).step c.shared).2
        simpa [Config.history] using hstep
      · have hold := @ih i th (by simpa [Function.update_of_ne hij] using hi)
        simpa [Config.history, Ne.symm hij] using hold
    | interfere f hf => exact ih hi

theorem Reach.recalls (hc : M.Reach C s₀ c) (hQ : ∀ call, (M.body call).Recalls (Q call) [])
    {i : ℕ} {th : Thread κ σ ε α} (hi : c.threads i = some th) :
    th.promise.Recalls (Q th.call) (c.history i) :=
  hc.yields hQ hi

/-- A call has come to what its body comes to after the states it has found. -/
theorem Reach.promise_eq (hc : M.Reach C s₀ c) {i : ℕ} {th : Thread κ σ ε α}
    (hi : c.threads i = some th) : th.promise = (M.body th.call).after (c.history i) := by
  induction hc generalizing th with
  | init => simp [Config.initial] at hi
  | @step c m c' hc _ hs ih =>
    cases hs with
    | @start j call hj =>
      by_cases hij : i = j
      · subst hij
        simp only [Function.update_self, Option.some.injEq] at hi
        subst hi
        have hnil : c.history i = [] := history_eq_nil_of_none hc hj
        simp only [Config.history] at hnil ⊢
        rw [hnil, Async.after_nil]
      · exact ih (by simpa [Function.update_of_ne hij] using hi)
    | @run j call effect next hj =>
      by_cases hij : j = i
      · subst hij
        simp only [Function.update_self, Option.some.injEq] at hi
        subst hi
        have hold : Async.pending effect next = (M.body call).after (c.history j) := ih hj
        rw [Config.history_run, Async.after_append, ← hold]
        exact (Async.after_nil _).symm
      · rw [Config.history_run_of_ne c (Ne.symm hij)]
        exact ih (by simpa [Function.update_of_ne (Ne.symm hij)] using hi)
    | interfere f hf => exact ih hi

/-- What a call that has been fulfilled has done. -/
theorem Reach.returned (hc : M.Reach C s₀ c) {R : κ → α → List (σ × σ) → Prop}
    (hQ : ∀ call, (M.body call).Yields (Q call) (R call) []) {i : ℕ} {call : κ} {a : α}
    (hi : c.Returned i call a) : R call a (c.history i) := by
  cases hc.yields hQ hi with
  | fulfilled hr => exact hr

/-- `e` was the next statement of `call` at `c₀`, an earlier configuration of the run to `c`. -/
structure Ran (M : System κ σ ε α) (C : Config κ σ ε α → Move κ σ → Prop) (s₀ : σ)
    (c₀ c : Config κ σ ε α) (e : ℕ × σ × σ) (call : κ) : Prop where
  reach : M.Reach C s₀ c₀
  meets : C c₀ (.run e.1)
  thread : ∃ effect next, c₀.threads e.1 = some ⟨call, .pending effect next⟩ ∧ effect e.2.1 = e.2.2
  shared : c₀.shared = e.2.1
  continues : Continues c₀ c
  log : c₀.log ++ [e] <+: c.log

theorem Ran.mem_log {c₀ : Config κ σ ε α} {e : ℕ × σ × σ} {call : κ} (h : M.Ran C s₀ c₀ c e call) :
    e ∈ c.log :=
  h.log.subset (List.mem_append_right _ List.mem_cons_self)

theorem Ran.thread_eq {c₀ : Config κ σ ε α} {e : ℕ × σ × σ} {call : κ} (h : M.Ran C s₀ c₀ c e call) :
    ∃ p, c.threads e.1 = some ⟨call, p⟩ := by
  obtain ⟨effect, next, hi, -⟩ := h.thread
  obtain ⟨p, hp, -⟩ := h.continues.threads _ _ hi
  exact ⟨p, hp⟩

theorem Ran.call_eq {c₀ : Config κ σ ε α} {e : ℕ × σ × σ} {call call' : κ} {p : Async σ ε α}
    (h : M.Ran C s₀ c₀ c e call) (hi : c.threads e.1 = some ⟨call', p⟩) : call = call' := by
  obtain ⟨q, hq⟩ := h.thread_eq
  rw [hq, Option.some.injEq] at hi
  exact congrArg Thread.call hi

theorem Ran.recalls {c₀ : Config κ σ ε α} {e : ℕ × σ × σ} {call : κ} (h : M.Ran C s₀ c₀ c e call)
    (hQ : ∀ call, (M.body call).Recalls (Q call) []) : Q call (c₀.history e.1) e.2.1 e.2.2 := by
  obtain ⟨effect, next, hi, heff⟩ := h.thread
  rw [← heff]
  exact ((h.reach.recalls hQ hi).step e.2.1).1

theorem Reach.ran_of_split (hc : M.Reach C s₀ c) {before after : List (ℕ × σ × σ)} {e : ℕ × σ × σ}
    (h : c.log = before ++ e :: after) : ∃ c₀ call, M.Ran C s₀ c₀ c e call ∧ c₀.log = before := by
  obtain ⟨c₀, call, effect, next, h₁, h₂, h₃, h₄, h₅, h₆, h₇⟩ := hc.log_split h
  exact ⟨c₀, call, ⟨h₁, h₂, ⟨effect, next, h₃, h₅⟩, h₄, h₆, after, by rw [h₇, h]; simp⟩, h₇⟩

theorem Reach.ran (hc : M.Reach C s₀ c) {e : ℕ × σ × σ} (he : e ∈ c.log) :
    ∃ c₀ call, M.Ran C s₀ c₀ c e call := by
  obtain ⟨before, after, h⟩ := List.append_of_mem he
  obtain ⟨c₀, call, hran, -⟩ := hc.ran_of_split h
  exact ⟨c₀, call, hran⟩

theorem Reach.passed (hc : M.Reach C s₀ c) {F : List (σ × σ) → σ → σ → Prop} {i : ℕ}
    (hF : Async.Passed F (c.history i)) : ∃ c₀ s t call, M.Ran C s₀ c₀ c (i, s, t) call ∧
      F (c₀.history i) s t := by
  obtain ⟨h₁, s, t, hpre, hf⟩ := hF
  induction hc with
  | init => simp [Config.initial, Config.history] at hpre
  | @step c m c' hc hm hs ih =>
    have hcont := hs.continues
    have hold : h₁ ++ [(s, t)] <+: c.history i → ∃ c₀ s t call,
        M.Ran C s₀ c₀ c' (i, s, t) call ∧ F (c₀.history i) s t := by
      intro hpre
      obtain ⟨c₀, s, t, call, hran, hf⟩ := ih hpre
      exact ⟨c₀, s, t, call, ⟨hran.reach, hran.meets, hran.thread, hran.shared,
        hran.continues.trans hcont, hran.log.trans hcont.log⟩, hf⟩
    cases hs with
    | start call hi => exact hold hpre
    | @run j call effect next hj =>
      by_cases hij : j = i
      · subst hij
        have hlast : h₁ ++ [(s, t)] <+: c.history j ++ [(c.shared, effect c.shared)] := by
          simpa [Config.history] using hpre
        rcases List.prefix_concat_iff.mp hlast with heq | hpre
        · obtain ⟨hh, he⟩ := List.append_inj' heq rfl
          simp only [List.cons.injEq, Prod.mk.injEq, and_true] at he
          obtain ⟨rfl, rfl⟩ := he
          exact ⟨c, c.shared, effect c.shared, call,
            ⟨hc, hm, ⟨effect, next, hj, rfl⟩, rfl, hcont, List.prefix_refl _⟩, hh ▸ hf⟩
        · exact hold hpre
      · apply hold
        simpa [Config.history, hij] using hpre
    | interfere f hf' => exact hold hpre

theorem Ran.later {c₀ c₁ : Config κ σ ε α} {e : ℕ × σ × σ} {call : κ}
    (h : M.Ran C s₀ c₀ c₁ e call) (hcont : Continues c₁ c) : M.Ran C s₀ c₀ c e call :=
  ⟨h.reach, h.meets, h.thread, h.shared, h.continues.trans hcont, h.log.trans hcont.log⟩

theorem Continues.mem_history {c₀ : Config κ σ ε α} (h : Continues c₀ c) {i : ℕ} {e : σ × σ}
    (he : e ∈ c₀.history i) : e ∈ c.history i :=
  Config.mem_history.mpr (h.log.subset (Config.mem_history.mp he))

theorem Continues.history {c₀ : Config κ σ ε α} (h : Continues c₀ c) (i : ℕ) :
    c₀.history i <+: c.history i :=
  h.log.filterMap _

theorem Reach.log_thread (hc : M.Reach C s₀ c) {e : ℕ × σ × σ} (he : e ∈ c.log) :
    ∃ th, c.threads e.1 = some th := by
  obtain ⟨c₀, call, hran⟩ := hc.ran he
  obtain ⟨p, hp⟩ := hran.thread_eq
  exact ⟨_, hp⟩

/-! ### Causes -/

/-- What holds now, and neither held at first nor comes by interference, a statement has brought
about. -/
theorem Reach.cause (hc : M.Reach C s₀ c) {P : σ → Prop} (h₀ : ¬ P s₀)
    (hint : ∀ s t, M.interfere s t → ¬ P s → ¬ P t) (h : P c.shared) :
    ∃ c₀ e call, M.Ran C s₀ c₀ c e call ∧ ¬ P e.2.1 ∧ P e.2.2 := by
  induction hc with
  | init => exact absurd h h₀
  | @step c m c' hc hm hs ih =>
    have hcont := hs.continues
    have hold : P c.shared →
        ∃ c₀ e call, M.Ran C s₀ c₀ c' e call ∧ ¬ P e.2.1 ∧ P e.2.2 := by
      intro hP
      obtain ⟨c₀, e, call, hran, hnot, hthen⟩ := ih hP
      exact ⟨c₀, e, call, hran.later hcont, hnot, hthen⟩
    cases hs with
    | start call hi => exact hold h
    | @run i call effect next hi =>
      by_cases hP : P c.shared
      · exact hold hP
      · exact ⟨c, (i, c.shared, effect c.shared), call,
          ⟨hc, hm, ⟨effect, next, hi, rfl⟩, rfl, hcont, List.prefix_refl _⟩, hP, h⟩
    | interfere f hf =>
      by_cases hP : P c.shared
      · exact hold hP
      · exact absurd h (hint _ _ hf hP)

/-- What a call has found in its past, a statement before it has brought about. -/
theorem Reach.cause_of_history (hc : M.Reach C s₀ c) {P : σ → Prop} (h₀ : ¬ P s₀)
    (hint : ∀ s t, M.interfere s t → ¬ P s → ¬ P t) {i : ℕ} {e : σ × σ} (he : e ∈ c.history i)
    (h : P e.1) :
    ∃ c₀ e call, M.Ran C s₀ c₀ c e call ∧ ¬ P e.2.1 ∧ P e.2.2 := by
  obtain ⟨c₁, call, hran⟩ := hc.ran (Config.mem_history.mp he)
  obtain ⟨c₀, e', call', hran', hnot, hthen⟩ := hran.reach.cause h₀ hint (hran.shared ▸ h)
  exact ⟨c₀, e', call', hran'.later hran.continues, hnot, hthen⟩

/-- What holds now and did not right after `e`, a later statement has brought about. -/
theorem Reach.cause_since (hc : M.Reach C s₀ c) {P : σ → Prop}
    (hint : ∀ s t, M.interfere s t → ¬ P s → ¬ P t) {before after : List (ℕ × σ × σ)} {e : ℕ × σ × σ}
    (hlog : c.log = before ++ e :: after) (he : ¬ P e.2.2) (h : P c.shared) :
    ∃ c₀, ∃ e' ∈ after, ∃ call, M.Ran C s₀ c₀ c e' call ∧ ¬ P e'.2.1 ∧ P e'.2.2 := by
  induction hc generalizing after with
  | init => simp [Config.initial] at hlog
  | @step c m c' hc hm hs ih =>
    have hcont := hs.continues
    have hold : ∀ {after}, c.log = before ++ e :: after → P c.shared →
        ∃ c₀, ∃ e' ∈ after, ∃ call, M.Ran C s₀ c₀ c' e' call ∧ ¬ P e'.2.1 ∧ P e'.2.2 := by
      intro after hlog hP
      obtain ⟨c₀, e', hmem, call, hran, hnot, hthen⟩ := ih hlog hP
      exact ⟨c₀, e', hmem, call, hran.later hcont, hnot, hthen⟩
    cases hs with
    | start call hi => exact hold hlog h
    | @run i call effect next hi =>
      rcases List.eq_nil_or_concat after with rfl | ⟨after, last, rfl⟩
      · obtain ⟨-, hlast⟩ := List.append_inj' hlog rfl
        obtain rfl := List.singleton_injective hlast
        exact absurd h he
      · have heq : c.log ++ [(i, c.shared, effect c.shared)] = (before ++ e :: after) ++ [last] := by
          simpa using hlog
        obtain ⟨hbefore, hlast⟩ := List.append_inj' heq rfl
        obtain rfl := List.singleton_injective hlast
        by_cases hP : P c.shared
        · obtain ⟨c₀, e', hmem, hrest⟩ := hold hbefore hP
          exact ⟨c₀, e', by simp [hmem], hrest⟩
        · exact ⟨c, _, by simp, call,
            ⟨hc, hm, ⟨effect, next, hi, rfl⟩, rfl, hcont, List.prefix_refl _⟩, hP, h⟩
    | interfere f hf =>
      by_cases hP : P c.shared
      · exact hold hlog hP
      · exact absurd h (hint _ _ hf hP)

/-! ### Invariants -/

/-- An invariant of the shared state, kept by the statements that a run meeting `C` can run. -/
theorem Reach.invariant (hc : M.Reach C s₀ c) (hQ : ∀ call, (M.body call).Recalls (Q call) [])
    {J : σ → Prop} (hJ₀ : J s₀)
    (hrun : ∀ c i call effect next, M.Reach C s₀ c → C c (.run i) →
      c.threads i = some ⟨call, .pending effect next⟩ → J c.shared →
        Q call (c.history i) c.shared (effect c.shared) → J (effect c.shared))
    (hint : ∀ s t, J s → M.interfere s t → J t) : J c.shared := by
  induction hc with
  | init => exact hJ₀
  | @step c m c' hc hm hs ih =>
    cases hs with
    | start call hi => exact ih
    | @run i call effect next hi =>
      exact hrun c i call effect next hc hm hi ih ((hc.recalls hQ hi).step c.shared).1
    | interfere f hf => exact hint _ _ ih hf

/-- A statement may take the invariant for all the states that its call has found. -/
theorem Reach.invariant_of_past (hc : M.Reach C s₀ c)
    (hQ : ∀ call, (M.body call).Recalls (Q call) []) {J : σ → Prop} (hJ₀ : J s₀)
    (hrun : ∀ c i call effect next, C c (.run i) →
      c.threads i = some ⟨call, .pending effect next⟩ → J c.shared → (∀ e ∈ c.history i, J e.1) →
        Q call (c.history i) c.shared (effect c.shared) → J (effect c.shared))
    (hint : ∀ s t, J s → M.interfere s t → J t) : J c.shared ∧ ∀ e ∈ c.log, J e.2.1 := by
  induction hc with
  | init => exact ⟨hJ₀, by simp [Config.initial]⟩
  | @step c m c' hc hm hs ih =>
    obtain ⟨hshared, hlog⟩ := ih
    cases hs with
    | start call hi => exact ⟨hshared, hlog⟩
    | @run i call effect next hi =>
      have hpast : ∀ e ∈ c.history i, J e.1 := fun e he => hlog _ (Config.mem_history.mp he)
      refine ⟨hrun c i call effect next hm hi hshared hpast
        ((hc.recalls hQ hi).step c.shared).1, fun e he => ?_⟩
      rcases List.mem_append.mp he with he | he
      · exact hlog e he
      · rw [List.mem_singleton.mp he]
        exact hshared
    | interfere f hf => exact ⟨hint _ _ hshared hf, hlog⟩

/-- What holds of the shared state all along a run holds around every statement of it. -/
theorem Reach.log_invariant {J : σ → Prop} (hc : M.Reach C s₀ c)
    (hJ : ∀ c, M.Reach C s₀ c → J c.shared) : ∀ e ∈ c.log, J e.2.1 ∧ J e.2.2 := by
  induction hc with
  | init => simp [Config.initial]
  | @step c m c' hc hm hs ih =>
    have hc' := hc.step hm hs
    cases hs with
    | start call hi => exact ih
    | @run i call effect next hi =>
      intro e he
      rcases List.mem_append.mp he with he | he
      · exact ih e he
      · rw [List.mem_singleton.mp he]
        exact ⟨hJ _ hc, hJ _ hc'⟩
    | interfere f hf => exact ih

/-- What no statement of a run meeting `C` undoes still holds at its end. -/
theorem Reach.persists (hc : M.Reach C s₀ c) (hQ : ∀ call, (M.body call).Recalls (Q call) [])
    {G : σ → Prop}
    (hrun : ∀ c i call effect next, M.Reach C s₀ c → C c (.run i) →
      c.threads i = some ⟨call, .pending effect next⟩ → G c.shared →
        Q call (c.history i) c.shared (effect c.shared) → G (effect c.shared))
    (hint : ∀ s t, G s → M.interfere s t → G t) :
    ∀ e ∈ c.log, G e.2.1 ∨ G e.2.2 → G c.shared := by
  induction hc with
  | init => simp [Config.initial]
  | @step c m c' hc hm hs ih =>
    cases hs with
    | start call hi => exact ih
    | @run i call effect next hi =>
      have hstep : G c.shared → G (effect c.shared) := fun h =>
        hrun c i call effect next hc hm hi h ((hc.recalls hQ hi).step c.shared).1
      intro e he hG
      rcases List.mem_append.mp he with he | he
      · exact hstep (ih e he hG)
      · rw [List.mem_singleton.mp he] at hG
        exact hG.elim hstep id
    | interfere f hf => exact fun e he hG => hint _ _ (ih e he hG) hf

/-- A state that the call recalls has become the present one by steps of `T`. -/
theorem Discipline.recalled {I : σ → Prop} {T : σ → σ → Prop} (D : M.Discipline I T) (h₀ : I s₀)
    (hc : M.Reach C s₀ c) {i : ℕ} {e : σ × σ} (he : e ∈ c.history i) :
    I e.1 ∧ ReflTransGen T e.1 c.shared := by
  obtain ⟨hinv, hstep, hlater⟩ := D.log h₀ hc _ (Config.mem_history.mp he)
  exact ⟨hinv, .head hstep hlater⟩

/-- What the call `j` finds has become of what the call `i` has left, if `i` was over before. -/
theorem Discipline.before {I : σ → Prop} {T : σ → σ → Prop} (D : M.Discipline I T) (h₀ : I s₀)
    (hc : M.Reach C s₀ c) {i j : ℕ} (hij : c.Before i j) {e e' : σ × σ} (he : e ∈ c.history i)
    (he' : e' ∈ c.history j) : ReflTransGen T e.2 e'.1 := by
  obtain ⟨before, after, hlog, hbefore, hafter⟩ := hij
  have hmem : (i, e) ∈ before := by
    rcases List.mem_append.mp (hlog ▸ Config.mem_history.mp he) with h | h
    · exact h
    · exact absurd rfl (hafter _ h)
  have hmem' : (j, e') ∈ after := by
    rcases List.mem_append.mp (hlog ▸ Config.mem_history.mp he') with h | h
    · exact absurd rfl (hbefore _ h)
    · exact h
  obtain ⟨mid, rest, rfl⟩ := List.append_of_mem hmem'
  rw [← List.append_assoc] at hlog
  obtain ⟨c₀, call, hran, hold⟩ := hc.ran_of_split hlog
  have hlater := (D.log h₀ hran.reach (i, e) (hold ▸ List.mem_append_left _ hmem)).2.2
  rwa [hran.shared] at hlater

/-- What every state that a call has found is to every later state, it is to those that the call
has found later. -/
theorem Reach.pairwise_history {R : σ → σ → Prop} {i : ℕ} (hc : M.Reach C s₀ c)
    (hR : ∀ c, M.Reach C s₀ c → ∀ e ∈ c.history i, R e.1 c.shared) :
    (c.history i).Pairwise fun e e' => R e.1 e'.1 := by
  induction hc with
  | init => simp [Config.initial, Config.history]
  | @step c m c' hc _ hs ih =>
    cases hs with
    | start call hi => exact ih
    | @run j call effect next hj =>
      by_cases hij : i = j
      · subst hij
        rw [Config.history_run, List.pairwise_append]
        refine ⟨ih, List.pairwise_singleton _ _, fun e he e' he' => ?_⟩
        rw [List.mem_singleton.mp he']
        exact hR c hc e he
      · rw [Config.history_run_of_ne c hij]
        exact ih
    | interfere f hf => exact ih

/-- What is either so or not so is at the end as it was at first exactly when an even number of
statements has changed it. -/
theorem Reach.eq_iff_even {f : σ → Bool} (hc : M.Reach C s₀ c)
    (hint : ∀ s t, M.interfere s t → f t = f s) :
    f c.shared = f s₀ ↔ Even (c.log.countP fun e => f e.2.1 != f e.2.2) := by
  induction hc with
  | init => simp [Config.initial]
  | @step c m c' hc _ hs ih =>
    cases hs with
    | start call hi => exact ih
    | @run i call effect next hi =>
      rw [List.countP_append, List.countP_singleton]
      by_cases hsame : f c.shared = f (effect c.shared)
      · simpa [hsame] using ih
      · have hother : f (effect c.shared) = f s₀ ↔ ¬ f c.shared = f s₀ := by
          cases hold : f c.shared <;> cases hnew : f (effect c.shared) <;> cases f s₀ <;> simp_all
        rw [hother, ih]
        simp [hsame, Nat.even_add_one]
    | interfere f' hf =>
      rw [hint _ _ hf]
      exact ih

/-! ### Conditions on the statements of a run -/

/-- The move meets `P` when it runs a statement. -/
def Meets (P : κ → σ → σ → Prop) (c : Config κ σ ε α) : Move κ σ → Prop
  | .run i => ∀ call effect next, c.threads i = some ⟨call, .pending effect next⟩ →
      P call c.shared (effect c.shared)
  | _ => True

instance Meets.decidable {P : κ → σ → σ → Prop} [∀ k s t, Decidable (P k s t)]
    (c : Config κ σ ε α) : (m : Move κ σ) → Decidable (Meets P c m)
  | .start _ _ => .isTrue trivial
  | .interfere _ => .isTrue trivial
  | .run i =>
    match hi : c.threads i with
    | some ⟨call, .pending effect next⟩ =>
      decidable_of_iff (P call c.shared (effect c.shared))
        ⟨fun h call' effect' next' hi' => by
          obtain ⟨rfl, rfl, rfl⟩ : call' = call ∧ effect' = effect ∧ next' = next := by
            simpa using hi'.symm.trans hi
          exact h, fun h => h call effect next hi⟩
    | some ⟨call, .fulfilled a⟩ => .isTrue fun _ _ _ hi' => by simp [hi] at hi'
    | some ⟨call, .rejected e⟩ => .isTrue fun _ _ _ hi' => by simp [hi] at hi'
    | none => .isTrue fun _ _ _ hi' => by simp [hi] at hi'

/-- The move meets `P`, given the call's past and the present state, when it runs a statement. -/
def Admits (P : κ → List (σ × σ) → σ → Prop) (c : Config κ σ ε α) : Move κ σ → Prop
  | .run i => ∀ th ∈ (c.threads i).toList, P th.call (c.history i) c.shared
  | _ => True

instance Admits.decidable {P : κ → List (σ × σ) → σ → Prop} [∀ k h s, Decidable (P k h s)]
    (c : Config κ σ ε α) : (m : Move κ σ) → Decidable (Admits P c m)
  | .start _ _ => .isTrue trivial
  | .interfere _ => .isTrue trivial
  | .run i => inferInstanceAs (Decidable (∀ th ∈ (c.threads i).toList, P th.call (c.history i) c.shared))

theorem Ran.admits {P : κ → List (σ × σ) → σ → Prop} {c₀ : Config κ σ ε α} {e : ℕ × σ × σ} {call : κ}
    (h : M.Ran (Admits P) s₀ c₀ c e call) : P call (c₀.history e.1) e.2.1 := by
  obtain ⟨effect, next, hi, -⟩ := h.thread
  exact h.shared ▸ h.meets _ (Option.mem_toList.mpr hi)

/-- What the moves of a run admit held at each statement of the call. -/
theorem Reach.admitted {P : κ → List (σ × σ) → σ → Prop} (hc : M.Reach (Admits P) s₀ c) {i : ℕ}
    {call : κ} {p : Async σ ε α} (hi : c.threads i = some ⟨call, p⟩) {e : σ × σ}
    (he : e ∈ c.history i) : ∃ h, P call h e.1 := by
  obtain ⟨c₀, call', hran⟩ := hc.ran (Config.mem_history.mp he)
  obtain rfl := hran.call_eq hi
  exact ⟨_, hran.admits⟩

theorem Reach.each (hc : M.Reach C s₀ c) {P : κ → σ → σ → Prop} (hP : c.Each P) :
    M.Reach (fun c m => C c m ∧ Meets P c m) s₀ c := by
  induction hc with
  | init => exact .init
  | @step c m c' _ hm hs ih =>
    have hcont := hs.continues
    have hold : c.Each P := by
      intro e he th hi
      obtain ⟨p, hp, -⟩ := hcont.threads _ _ hi
      exact hP e (hcont.log.subset he) ⟨th.call, p⟩ hp
    refine (ih hold).step ⟨hm, ?_⟩ hs
    cases hs with
    | start call hi => trivial
    | @run i call effect next hi =>
      intro call' effect' next' hi'
      obtain ⟨rfl, rfl, rfl⟩ : call' = call ∧ effect' = effect ∧ next' = next := by
        simpa using hi'.symm.trans hi
      exact hP _ (List.mem_append_right _ List.mem_cons_self) _ (Function.update_self ..)
    | interfere f hf => trivial

end System

end Sampraan.Library
