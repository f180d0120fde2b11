import Sampraan.Library.Async
import Mathlib.Logic.Function.Basic

/-!
Interleavings of asynchronous calls. Any number of calls run over one shared
state; a move starts a call, runs one statement of one call, or lets the rest
of the world change the state. A call that is never run again is a crashed one.
-/

namespace Sampraan.Library

open Relation

structure System (κ σ ε α : Type) where
  body : κ → Async σ ε α
  interfere : σ → σ → Prop

structure Thread (κ σ ε α : Type) where
  call : κ
  promise : Async σ ε α

/-- `log` lists every statement run so far, in order: whose it was, and the states around it. -/
structure Config (κ σ ε α : Type) where
  shared : σ
  threads : ℕ → Option (Thread κ σ ε α)
  log : List (ℕ × σ × σ)

inductive Move (κ σ : Type) where
  | start (i : ℕ) (call : κ)
  | run (i : ℕ)
  | interfere (f : σ → σ)

variable {κ σ ε α : Type}

namespace Config

def initial (s : σ) : Config κ σ ε α := ⟨s, fun _ => none, []⟩

def history (c : Config κ σ ε α) (i : ℕ) : List (σ × σ) :=
  c.log.filterMap (fun e => if e.1 = i then some e.2 else none)

def Returned (c : Config κ σ ε α) (i : ℕ) (call : κ) (a : α) : Prop :=
  c.threads i = some ⟨call, .fulfilled a⟩

theorem mem_history {c : Config κ σ ε α} {i : ℕ} {e : σ × σ} :
    e ∈ c.history i ↔ (i, e) ∈ c.log := by
  simp only [history, List.mem_filterMap, Option.ite_none_right_eq_some, Option.some.injEq]
  constructor
  · rintro ⟨⟨j, e'⟩, he, rfl, rfl⟩
    exact he
  · intro he
    exact ⟨(i, e), he, rfl, rfl⟩

end Config

namespace System

variable {M : System κ σ ε α}

inductive Step (M : System κ σ ε α) : Config κ σ ε α → Move κ σ → Config κ σ ε α → Prop
  | start {c i} (call : κ) (hi : c.threads i = none) :
    Step M c (.start i call)
      { c with threads := Function.update c.threads i (some ⟨call, M.body call⟩) }
  | run {c i call effect next} (hi : c.threads i = some ⟨call, .pending effect next⟩) :
    Step M c (.run i)
      { shared := effect c.shared
        threads := Function.update c.threads i (some ⟨call, next c.shared⟩)
        log := c.log ++ [(i, c.shared, effect c.shared)] }
  | interfere {c} (f : σ → σ) (hf : M.interfere c.shared (f c.shared)) :
    Step M c (.interfere f) { c with shared := f c.shared }

/-- The configurations of the runs from `s₀` all of whose moves meet `C`. -/
inductive Reach (M : System κ σ ε α) (C : Config κ σ ε α → Move κ σ → Prop) (s₀ : σ) :
    Config κ σ ε α → Prop
  | init : Reach M C s₀ (Config.initial s₀)
  | step {c m c'} (hc : Reach M C s₀ c) (hm : C c m) (hs : M.Step c m c') : Reach M C s₀ c'

abbrev Reachable (M : System κ σ ε α) (s₀ : σ) (c : Config κ σ ε α) : Prop :=
  M.Reach (fun _ _ => True) s₀ c

theorem Reach.mono {C D : Config κ σ ε α → Move κ σ → Prop} (hCD : ∀ c m, C c m → D c m) {s₀ : σ}
    {c : Config κ σ ε α} (hc : M.Reach C s₀ c) : M.Reach D s₀ c := by
  induction hc with
  | init => exact .init
  | step _ hm hs ih => exact ih.step (hCD _ _ hm) hs

theorem Reach.reachable {C : Config κ σ ε α → Move κ σ → Prop} {s₀ : σ} {c : Config κ σ ε α}
    (hc : M.Reach C s₀ c) : M.Reachable s₀ c :=
  hc.mono fun _ _ _ => trivial

/-! ### Executable schedules -/

def apply (M : System κ σ ε α) (c : Config κ σ ε α) : Move κ σ → Option (Config κ σ ε α)
  | .start i call =>
    match c.threads i with
    | none => some { c with threads := Function.update c.threads i (some ⟨call, M.body call⟩) }
    | some _ => none
  | .run i =>
    match c.threads i with
    | some ⟨call, .pending effect next⟩ =>
      some { shared := effect c.shared
             threads := Function.update c.threads i (some ⟨call, next c.shared⟩)
             log := c.log ++ [(i, c.shared, effect c.shared)] }
    | _ => none
  | .interfere f => some { c with shared := f c.shared }

/-- Runs the moves in order as long as each is possible and meets `C`. -/
def exec (M : System κ σ ε α) (C : Config κ σ ε α → Move κ σ → Prop)
    [∀ c m, Decidable (C c m)] (c : Config κ σ ε α) : List (Move κ σ) → Option (Config κ σ ε α)
  | [] => some c
  | m :: ms => if C c m then (M.apply c m).bind (fun c' => M.exec C c' ms) else none

/-- Moves whose interference is allowed in every state. -/
def Harmless (M : System κ σ ε α) : Move κ σ → Prop
  | .interfere f => ∀ s, M.interfere s (f s)
  | _ => True

theorem apply_sound {c c' : Config κ σ ε α} {m : Move κ σ} (hm : M.Harmless m)
    (h : M.apply c m = some c') : M.Step c m c' := by
  cases m with
  | start i call =>
    cases hi : c.threads i with
    | none =>
      simp only [apply, hi, Option.some.injEq] at h
      exact h ▸ .start call hi
    | some th => simp [apply, hi] at h
  | run i =>
    rcases hi : c.threads i with _ | ⟨call, _ | _ | ⟨effect, next⟩⟩
    · simp [apply, hi] at h
    · simp [apply, hi] at h
    · simp [apply, hi] at h
    · simp only [apply, hi, Option.some.injEq] at h
      exact h ▸ .run hi
  | interfere f =>
    simp only [apply, Option.some.injEq] at h
    exact h ▸ .interfere f (hm _)

/-- Any number of moves that meet `C`. -/
def Leads (M : System κ σ ε α) (C : Config κ σ ε α → Move κ σ → Prop) :
    Config κ σ ε α → Config κ σ ε α → Prop :=
  ReflTransGen fun c c' => ∃ m, C c m ∧ M.Step c m c'

theorem Reach.leads {C : Config κ σ ε α → Move κ σ → Prop} {s₀ : σ} {c c' : Config κ σ ε α}
    (hc : M.Reach C s₀ c) (h : M.Leads C c c') : M.Reach C s₀ c' := by
  induction h with
  | refl => exact hc
  | tail _ hstep ih =>
    obtain ⟨m, hm, hs⟩ := hstep
    exact ih.step hm hs

theorem exec_leads {C : Config κ σ ε α → Move κ σ → Prop} [∀ c m, Decidable (C c m)]
    {ms : List (Move κ σ)} {c c' : Config κ σ ε α} (hm : ∀ m ∈ ms, M.Harmless m)
    (h : M.exec C c ms = some c') : M.Leads C c c' := by
  induction ms generalizing c with
  | nil => exact Option.some.inj h ▸ .refl
  | cons m ms ih =>
    simp only [exec, Option.ite_none_right_eq_some, Option.bind_eq_some_iff] at h
    obtain ⟨hC, c₁, h₁, h⟩ := h
    exact .head ⟨m, hC, apply_sound (hm m List.mem_cons_self) h₁⟩
      (ih (fun m' hm' => hm m' (List.mem_cons_of_mem _ hm')) h)

theorem exec_reach {C : Config κ σ ε α → Move κ σ → Prop} [∀ c m, Decidable (C c m)] {s₀ : σ}
    {ms : List (Move κ σ)} {c : Config κ σ ε α} (hm : ∀ m ∈ ms, M.Harmless m)
    (h : M.exec C (Config.initial s₀) ms = some c) : M.Reach C s₀ c :=
  Reach.leads .init (exec_leads hm h)

/-- The move belongs to a call. -/
def OfCall : Move κ σ → Bool
  | .interfere _ => false
  | _ => true

theorem harmless_of_all_ofCall {ms : List (Move κ σ)} (h : ms.all OfCall = true) :
    ∀ m ∈ ms, M.Harmless m := by
  intro m hm
  have hcall := List.all_eq_true.mp h m hm
  cases m with
  | start i call => trivial
  | run i => trivial
  | interfere f => cases hcall

theorem harmless_of_interfere {before after : List (Move κ σ)} {f : σ → σ}
    (hf : ∀ s, M.interfere s (f s)) (hbefore : before.all OfCall = true)
    (hafter : after.all OfCall = true) : ∀ m ∈ before ++ .interfere f :: after, M.Harmless m := by
  intro m hm
  rcases List.mem_append.mp hm with hm | hm
  · exact harmless_of_all_ofCall hbefore m hm
  · rcases List.mem_cons.mp hm with rfl | hm
    · exact hf
    · exact harmless_of_all_ofCall hafter m hm

/-- The calls one after the other, numbered from `i` on, each with the number of its statements. -/
def sequence : ℕ → List (κ × ℕ) → List (Move κ σ)
  | _, [] => []
  | i, (call, n) :: calls => .start i call :: (List.replicate n (.run i) ++ sequence (i + 1) calls)

theorem harmless_of_mem_sequence {i : ℕ} {calls : List (κ × ℕ)} {m : Move κ σ}
    (hm : m ∈ sequence i calls) : M.Harmless m := by
  induction calls generalizing i with
  | nil => simp [sequence] at hm
  | cons call calls ih =>
    simp only [sequence, List.mem_cons, List.mem_append, List.mem_replicate] at hm
    rcases hm with rfl | ⟨-, rfl⟩ | hm
    · trivial
    · trivial
    · exact ih hm

/-- A call is run to its end while nothing else happens. -/
theorem leads_settles {C : Config κ σ ε α → Move κ σ → Prop} {D : σ → Prop} {i : ℕ} {call : κ}
    (hC : ∀ c p, c.threads i = some ⟨call, p⟩ → D c.shared → C c (.run i)) {c : Config κ σ ε α}
    {p : Async σ ε α} {h : List (σ × σ)} {o : Except ε α} (hi : c.threads i = some ⟨call, p⟩)
    (hp : p.Settles Eq c.shared h o) (hD : ∀ e ∈ h, D e.1) : ∃ c', M.Leads C c c' ∧
      c'.threads = Function.update c.threads i (some ⟨call, Async.ofExcept o⟩) ∧
      c'.shared = Async.lastState c.shared h ∧ c'.log = c.log ++ h.map (Prod.mk i) := by
  generalize hs : c.shared = s at hp
  induction hp generalizing c with
  | fulfilled a s =>
    exact ⟨c, .refl, (hi ▸ Function.update_eq_self i c.threads :).symm, hs, by simp⟩
  | rejected e s =>
    exact ⟨c, .refl, (hi ▸ Function.update_eq_self i c.threads :).symm, hs, by simp⟩
  | @pending effect next s t h o ht _ ih =>
    subst ht hs
    obtain ⟨c', hc', hthreads, hshared, hlog⟩ := ih
      (c := ⟨effect c.shared, Function.update c.threads i (some ⟨call, next c.shared⟩),
        c.log ++ [(i, c.shared, effect c.shared)]⟩)
      (Function.update_self ..) (fun e he => hD e (List.mem_cons_of_mem _ he)) rfl
    refine ⟨c', .head ⟨.run i, hC c _ hi (hD _ List.mem_cons_self), .run hi⟩ hc', ?_, hshared, ?_⟩
    · rw [hthreads, Function.update_idem]
    · rw [hlog]
      simp

theorem Reach.settles {s₀ : σ} {c : Config κ σ ε α} (hc : M.Reachable s₀ c) {i : ℕ} {call : κ}
    {p : Async σ ε α} {h : List (σ × σ)} {o : Except ε α} (hi : c.threads i = some ⟨call, p⟩)
    (hp : p.Settles Eq c.shared h o) : ∃ c', M.Reachable s₀ c' ∧
      c'.threads = Function.update c.threads i (some ⟨call, Async.ofExcept o⟩) ∧
      c'.shared = Async.lastState c.shared h ∧ c'.log = c.log ++ h.map (Prod.mk i) := by
  obtain ⟨c', hlead, hrest⟩ := leads_settles (M := M) (C := fun _ _ => True) (D := fun _ => True)
    (fun _ _ _ _ => trivial) hi hp fun _ _ => trivial
  exact ⟨c', hc.leads hlead, hrest⟩

theorem Reach.call {s₀ : σ} {c : Config κ σ ε α} (hc : M.Reachable s₀ c) {i : ℕ} {k : κ}
    {h : List (σ × σ)} {o : Except ε α} (hi : c.threads i = none)
    (hp : (M.body k).Settles Eq c.shared h o) : ∃ c', M.Reachable s₀ c' ∧
      c'.threads = Function.update c.threads i (some ⟨k, Async.ofExcept o⟩) ∧
      c'.shared = Async.lastState c.shared h ∧ c'.log = c.log ++ h.map (Prod.mk i) := by
  obtain ⟨c', hc', hthreads, hshared, hlog⟩ :=
    (hc.step trivial (.start k hi)).settles (Function.update_self ..) hp
  exact ⟨c', hc', by rw [hthreads, Function.update_idem], hshared, hlog⟩

theorem Reach.call_ends {s₀ t : σ} {c : Config κ σ ε α} (hc : M.Reachable s₀ c) {i : ℕ} {k : κ}
    {a : α} (hi : c.threads i = none) (hp : (M.body k).Ends c.shared a t) :
    ∃ c', M.Reachable s₀ c' ∧
      c'.threads = Function.update c.threads i (some ⟨k, .fulfilled a⟩) ∧ c'.shared = t := by
  obtain ⟨h, hp, rfl⟩ := hp
  obtain ⟨c', hc', hthreads, hshared, -⟩ := hc.call hi hp
  exact ⟨c', hc', hthreads, hshared⟩

/-! ### Invariants over every interleaving -/

/-- Every statement and every interference, found in a state with `I`, makes a step of `T`,
and `T` keeps `I`. -/
structure Discipline (M : System κ σ ε α) (I : σ → Prop) (T : σ → σ → Prop) : Prop where
  body : ∀ call, (M.body call).Obeys I T
  interfere : ∀ s t, I s → M.interfere s t → T s t
  keep : ∀ s t, I s → T s t → I t

variable {C : Config κ σ ε α → Move κ σ → Prop} {I : σ → Prop} {T : σ → σ → Prop} {s₀ : σ}
  {c c' : Config κ σ ε α}

theorem Discipline.reach (D : M.Discipline I T) (h₀ : I s₀) (hc : M.Reach C s₀ c) :
    I c.shared ∧ ∀ i th, c.threads i = some th → th.promise.Obeys I T := by
  induction hc with
  | init => exact ⟨h₀, fun i th hi => by simp [Config.initial] at hi⟩
  | @step c m c' _ _ hs ih =>
    obtain ⟨hinv, hth⟩ := ih
    cases hs with
    | @start i call hi =>
      refine ⟨hinv, fun j th hj => ?_⟩
      by_cases hji : j = i
      · subst hji
        simp only [Function.update_self, Option.some.injEq] at hj
        exact hj ▸ D.body call
      · exact hth j th (by simpa [Function.update_of_ne hji] using hj)
    | @run i call effect next hi =>
      have ho := (hth i _ hi).step hinv
      refine ⟨D.keep _ _ hinv ho.1, fun j th hj => ?_⟩
      by_cases hji : j = i
      · subst hji
        simp only [Function.update_self, Option.some.injEq] at hj
        exact hj ▸ ho.2
      · exact hth j th (by simpa [Function.update_of_ne hji] using hj)
    | interfere f hf => exact ⟨D.keep _ _ hinv (D.interfere _ _ hinv hf), hth⟩

theorem Discipline.shared_inv (D : M.Discipline I T) (h₀ : I s₀) (hc : M.Reach C s₀ c) :
    I c.shared :=
  (D.reach h₀ hc).1

/-- What one move does to the shared state: nothing when it starts a call, a step of `T` else. -/
theorem Discipline.step (D : M.Discipline I T) (h₀ : I s₀) (hc : M.Reach C s₀ c) {m : Move κ σ}
    (hs : M.Step c m c') : c'.shared = c.shared ∧ c'.log = c.log ∨ T c.shared c'.shared := by
  obtain ⟨hinv, hth⟩ := D.reach h₀ hc
  cases hs with
  | start call hi => exact .inl ⟨rfl, rfl⟩
  | run hi => exact .inr ((hth _ _ hi).step hinv).1
  | interfere f hf => exact .inr (D.interfere _ _ hinv hf)

/-- What a call may find after some steps of the others. -/
def Finds (I : σ → Prop) (T : σ → σ → Prop) (s t : σ) : Prop :=
  ReflTransGen T s t ∧ I t

theorem Finds.trans {s s' t : σ} (h : ReflTransGen T s s') (h' : Finds I T s' t) :
    Finds I T s t :=
  ⟨h.trans h'.1, h'.2⟩

theorem settles_earlier {p : Async σ ε α} {s s' : σ} {h : List (σ × σ)} {o : Except ε α}
    (hs : ReflTransGen T s s') (hc : p.Settles (Finds I T) s' h o) :
    p.Settles (Finds I T) s h o :=
  Async.Settles.weaken (W := Finds I T) (R := ReflTransGen T) (fun _ _ _ => Finds.trans) hs hc

theorem Discipline.log (D : M.Discipline I T) (h₀ : I s₀) (hc : M.Reach C s₀ c) :
    ∀ e ∈ c.log, I e.2.1 ∧ T e.2.1 e.2.2 ∧ ReflTransGen T e.2.2 c.shared := by
  induction hc with
  | init => simp [Config.initial]
  | @step c m c' hc _ hs ih =>
    obtain ⟨hinv, hth⟩ := D.reach h₀ hc
    cases hs with
    | start call hi => exact ih
    | @run i call effect next hi =>
      have ho := ((hth i _ hi).step hinv).1
      intro e he
      rcases List.mem_append.mp he with he | he
      · obtain ⟨h₁, h₂, h₃⟩ := ih e he
        exact ⟨h₁, h₂, h₃.tail ho⟩
      · rw [List.mem_singleton] at he
        subst he
        exact ⟨hinv, ho, .refl⟩
    | interfere f hf =>
      intro e he
      obtain ⟨h₁, h₂, h₃⟩ := ih e he
      exact ⟨h₁, h₂, h₃.tail (D.interfere _ _ hinv hf)⟩

theorem history_eq_nil_of_none (hc : M.Reach C s₀ c) {i : ℕ} (hi : c.threads i = none) :
    c.history i = [] := by
  suffices ∀ e ∈ c.log, c.threads e.1 ≠ none by
    rw [List.eq_nil_iff_forall_not_mem]
    exact fun e he => this _ (Config.mem_history.mp he) hi
  clear hi
  induction hc with
  | init => simp [Config.initial]
  | @step c m c' _ _ hs ih =>
    cases hs with
    | @start i call hi =>
      intro e he
      by_cases hei : e.1 = i
      · simp [hei]
      · simpa [Function.update_of_ne hei] using ih e he
    | @run i call effect next hi =>
      intro e he
      by_cases hei : e.1 = i
      · simp [hei]
      · rcases List.mem_append.mp he with he | he
        · simpa [Function.update_of_ne hei] using ih e he
        · rw [List.mem_singleton] at he
          exact absurd (by rw [he]) hei
    | interfere f hf => exact ih

/-- However the rest of a call settles, together with its history it is a run of its body. -/
theorem Discipline.settles_of_rest (D : M.Discipline I T) (h₀ : I s₀) (hc : M.Reach C s₀ c)
    {i : ℕ} {th : Thread κ σ ε α} (hi : c.threads i = some th) : ∃ s, ∀ h b,
      th.promise.Settles (Finds I T) c.shared h b →
        (M.body th.call).Settles (Finds I T) s (c.history i ++ h) b := by
  induction hc generalizing th with
  | init => simp [Config.initial] at hi
  | @step c m c' hc _ hs ih =>
    obtain ⟨hinv, hth⟩ := D.reach h₀ hc
    cases hs with
    | @start j call hj =>
      by_cases hij : i = j
      · subst hij
        simp only [Function.update_self, Option.some.injEq] at hi
        subst hi
        have hnil := history_eq_nil_of_none hc hj
        refine ⟨c.shared, fun h b hb => ?_⟩
        simp only [Config.history] at hnil ⊢
        simpa only [hnil, List.nil_append] using hb
      · exact ih (by simpa [Function.update_of_ne hij] using hi)
    | @run j call effect next hj =>
      have ho := ((hth j _ hj).step hinv).1
      by_cases hij : i = j
      · subst hij
        simp only [Function.update_self, Option.some.injEq] at hi
        subst hi
        obtain ⟨s, hs⟩ := ih hj
        refine ⟨s, fun h b hb => ?_⟩
        have hh := hs ((c.shared, effect c.shared) :: h) b (.pending ⟨.refl, hinv⟩ hb)
        simpa [Config.history] using hh
      · obtain ⟨s, hs⟩ := ih (by simpa [Function.update_of_ne hij] using hi)
        refine ⟨s, fun h b hb => ?_⟩
        have hh := hs h b (settles_earlier (.single ho) hb)
        simpa [Config.history, Ne.symm hij] using hh
    | interfere f hf =>
      obtain ⟨s, hs⟩ := ih hi
      have ho := D.interfere _ _ hinv hf
      exact ⟨s, fun h b hb => hs h b (settles_earlier (.single ho) hb)⟩

theorem Discipline.settles (D : M.Discipline I T) (h₀ : I s₀) (hc : M.Reach C s₀ c) {i : ℕ}
    {call : κ} {o : Except ε α} (hi : c.threads i = some ⟨call, Async.ofExcept o⟩) :
    ∃ s, (M.body call).Settles (Finds I T) s (c.history i) o := by
  obtain ⟨s, hs⟩ := D.settles_of_rest h₀ hc hi
  exact ⟨s, by simpa using hs [] o (Async.settles_ofExcept o _)⟩

theorem Discipline.exists_settles (D : M.Discipline I T) (h₀ : I s₀) (hc : M.Reach C s₀ c)
    {i : ℕ} {th : Thread κ σ ε α} (hi : c.threads i = some th) :
    ∃ s h o, (M.body th.call).Settles (Finds I T) s (c.history i ++ h) o := by
  obtain ⟨hinv, hth⟩ := D.reach h₀ hc
  obtain ⟨s, hs⟩ := D.settles_of_rest h₀ hc hi
  exact ⟨s, _, _, hs _ _ (Async.settles_runAlone (fun _ h => ⟨.refl, h⟩) D.keep (hth i th hi) hinv)⟩

/-! ### Earlier configurations of a run -/

structure Continues (c c' : Config κ σ ε α) : Prop where
  log : c.log <+: c'.log
  threads : ∀ i th, c.threads i = some th →
    ∃ p, c'.threads i = some ⟨th.call, p⟩ ∧ (th.promise.Settled → p = th.promise)

theorem Continues.refl (c : Config κ σ ε α) : Continues c c :=
  ⟨List.prefix_refl _, fun _ th hi => ⟨th.promise, hi, fun _ => rfl⟩⟩

theorem Continues.trans {c c' c'' : Config κ σ ε α} (h : Continues c c') (h' : Continues c' c'') :
    Continues c c'' := by
  refine ⟨h.log.trans h'.log, fun i th hi => ?_⟩
  obtain ⟨p, hp, hs⟩ := h.threads i th hi
  obtain ⟨q, hq, hs'⟩ := h'.threads i _ hp
  refine ⟨q, hq, fun hth => ?_⟩
  rw [← hs hth]
  exact hs' (hs hth ▸ hth)

theorem Continues.returned {i : ℕ} {call : κ} {a : α} (h : Continues c c')
    (hi : c.Returned i call a) : c'.Returned i call a := by
  obtain ⟨p, hp, hs⟩ := h.threads i _ hi
  rw [Config.Returned, hp, hs trivial]

theorem Step.continues {m : Move κ σ} (hs : M.Step c m c') : Continues c c' := by
  cases hs with
  | @start i call hi =>
    refine ⟨List.prefix_refl _, fun j th hj => ⟨th.promise, ?_, fun _ => rfl⟩⟩
    have hji : j ≠ i := by rintro rfl; simp [hi] at hj
    simpa [Function.update_of_ne hji] using hj
  | @run i call effect next hi =>
    refine ⟨List.prefix_append _ _, fun j th hj => ?_⟩
    by_cases hji : j = i
    · subst hji
      rw [hi, Option.some.injEq] at hj
      subst hj
      exact ⟨next c.shared, by simp, fun h => h.elim⟩
    · exact ⟨th.promise, by simpa [Function.update_of_ne hji] using hj, fun _ => rfl⟩
  | interfere f hf => exact ⟨List.prefix_refl _, fun _ th hi => ⟨th.promise, hi, fun _ => rfl⟩⟩

theorem Leads.continues (h : M.Leads C c c') : Continues c c' := by
  induction h with
  | refl => exact .refl c
  | tail _ hstep ih =>
    obtain ⟨m, -, hs⟩ := hstep
    exact ih.trans hs.continues

/-- Moves that are run from a configuration lead on from it. -/
theorem exec_continues [∀ c m, Decidable (C c m)] {ms : List (Move κ σ)} (hc : M.Reach C s₀ c)
    (hm : ∀ m ∈ ms, M.Harmless m) (h : M.exec C c ms = some c') :
    M.Reach C s₀ c' ∧ Continues c c' :=
  ⟨hc.leads (exec_leads hm h), (exec_leads hm h).continues⟩

/-- Some number has not been given to a call. -/
theorem Reach.exists_free (hc : M.Reach C s₀ c) : ∃ n, ∀ i, n ≤ i → c.threads i = none := by
  induction hc with
  | init => exact ⟨0, fun i _ => rfl⟩
  | @step c m c' _ _ hs ih =>
    obtain ⟨n, hn⟩ := ih
    cases hs with
    | @start j call hj =>
      refine ⟨max n (j + 1), fun i hi => ?_⟩
      have hij : i ≠ j := by omega
      exact (Function.update_of_ne hij ..).trans (hn i (by omega))
    | @run j call effect next hj =>
      refine ⟨max n (j + 1), fun i hi => ?_⟩
      have hij : i ≠ j := by omega
      exact (Function.update_of_ne hij ..).trans (hn i (by omega))
    | interfere f hf => exact ⟨n, hn⟩

/-- A new call can be made, and run without interruption. -/
theorem Reach.call_run (hc : M.Reachable s₀ c) {i : ℕ} {k : κ} {a : α} {t : σ}
    (hi : c.threads i = none) (hp : (M.body k).run c.shared = (.ok a, t)) :
    ∃ c', M.Reachable s₀ c' ∧ Continues c c' ∧ c'.Returned i k a ∧ c'.shared = t ∧
      ∀ j, j ≠ i → c'.threads j = c.threads j := by
  have hsettles := Async.settles_alone (M.body k) c.shared
  obtain ⟨hresult, hlast⟩ := Prod.mk.inj hp
  rw [hresult] at hsettles
  obtain ⟨c', hc', hthreads, hshared, hlog⟩ := hc.call hi hsettles
  have hothers : ∀ j, j ≠ i → c'.threads j = c.threads j := by
    intro j hj
    rw [hthreads, Function.update_of_ne hj]
  refine ⟨c', hc', ⟨?_, fun j th hj => ?_⟩, ?_, hshared.trans hlast, hothers⟩
  · rw [hlog]
    exact List.prefix_append _ _
  · refine ⟨th.promise, ?_, fun _ => rfl⟩
    rw [hothers j (by rintro rfl; simp [hi] at hj)]
    exact hj
  · rw [Config.Returned, hthreads]
    exact Function.update_self ..

theorem Reach.log_split (hc : M.Reach C s₀ c) {before after : List (ℕ × σ × σ)} {e : ℕ × σ × σ}
    (h : c.log = before ++ e :: after) : ∃ c₀ call effect next,
      M.Reach C s₀ c₀ ∧ C c₀ (.run e.1) ∧ c₀.threads e.1 = some ⟨call, .pending effect next⟩ ∧
        c₀.shared = e.2.1 ∧ effect e.2.1 = e.2.2 ∧ Continues c₀ c ∧ c₀.log = before := by
  induction hc generalizing after with
  | init => simp [Config.initial] at h
  | @step c m c' hc hm hs ih =>
    have hcont := hs.continues
    have hold : ∀ {after}, c.log = before ++ e :: after → ∃ c₀ call effect next,
        M.Reach C s₀ c₀ ∧ C c₀ (.run e.1) ∧ c₀.threads e.1 = some ⟨call, .pending effect next⟩ ∧
          c₀.shared = e.2.1 ∧ effect e.2.1 = e.2.2 ∧ Continues c₀ c' ∧ c₀.log = before := by
      intro after h
      obtain ⟨c₀, call, effect, next, h₁, h₂, h₃, h₄, h₅, h₆, h₇⟩ := ih h
      exact ⟨c₀, call, effect, next, h₁, h₂, h₃, h₄, h₅, h₆.trans hcont, h₇⟩
    cases hs with
    | start call hi => exact hold h
    | @run i call effect next hi =>
      rcases List.eq_nil_or_concat after with rfl | ⟨after, last, rfl⟩
      · obtain ⟨hbefore, he⟩ := List.append_inj' h rfl
        obtain rfl := List.singleton_injective he
        exact ⟨c, call, effect, next, hc, hm, hi, rfl, rfl, hcont, hbefore⟩
      · have hlast : c.log ++ [(i, c.shared, effect c.shared)] = (before ++ e :: after) ++ [last] := by
          simpa using h
        exact hold (List.append_inj' hlast rfl).1
    | interfere f hf => exact hold h

theorem Reach.log_source (hc : M.Reach C s₀ c) : ∀ e ∈ c.log, ∃ c₀ call effect next,
    M.Reach C s₀ c₀ ∧ C c₀ (.run e.1) ∧ c₀.threads e.1 = some ⟨call, .pending effect next⟩ ∧
      c₀.shared = e.2.1 ∧ effect e.2.1 = e.2.2 ∧ Continues c₀ c ∧ c₀.log ++ [e] <+: c.log := by
  intro e he
  obtain ⟨before, after, h⟩ := List.append_of_mem he
  obtain ⟨c₀, call, effect, next, h₁, h₂, h₃, h₄, h₅, h₆, h₇⟩ := hc.log_split h
  exact ⟨c₀, call, effect, next, h₁, h₂, h₃, h₄, h₅, h₆, after, by rw [h₇, h]; simp⟩

theorem Discipline.log_behaves (D : M.Discipline I T) (h₀ : I s₀) (hc : M.Reach C s₀ c)
    {U : κ → σ → σ → Prop}
    (hU : ∀ call s, I s → (M.body call).Behaves (Finds I T) (U call) s) :
    (∀ i th, c.threads i = some th → th.promise.Behaves (Finds I T) (U th.call) c.shared) ∧
      ∀ e ∈ c.log, ∃ th, c.threads e.1 = some th ∧ U th.call e.2.1 e.2.2 := by
  induction hc with
  | init => exact ⟨fun i th hi => by simp [Config.initial] at hi, by simp [Config.initial]⟩
  | @step c m c' hc _ hs ih =>
    obtain ⟨hth, hlog⟩ := ih
    have hinv := D.shared_inv h₀ hc
    have hcont := hs.continues
    have hold : ∀ e ∈ c.log, ∃ th, c'.threads e.1 = some th ∧ U th.call e.2.1 e.2.2 := by
      intro e he
      obtain ⟨th, hi, hu⟩ := hlog e he
      obtain ⟨p, hp, _⟩ := hcont.threads _ _ hi
      exact ⟨_, hp, hu⟩
    have hlater : ∀ t, T c.shared t → ∀ i th, c.threads i = some th →
        th.promise.Behaves (Finds I T) (U th.call) t := fun t ht i th hi =>
      (hth i th hi).later fun u hu => Finds.trans (.single ht) hu
    cases hs with
    | @start i call hi =>
      refine ⟨fun j th hj => ?_, hold⟩
      by_cases hji : j = i
      · subst hji
        simp only [Function.update_self, Option.some.injEq] at hj
        exact hj ▸ hU call _ hinv
      · exact hth j th (by simpa [Function.update_of_ne hji] using hj)
    | @run i call effect next hi =>
      have ho := (hth i _ hi).step (t := c.shared) ⟨.refl, hinv⟩
      have hT := (((D.reach h₀ hc).2 i _ hi).step hinv).1
      constructor
      · intro j th hj
        by_cases hji : j = i
        · subst hji
          simp only [Function.update_self, Option.some.injEq] at hj
          exact hj ▸ ho.2
        · exact hlater _ hT j th (by simpa [Function.update_of_ne hji] using hj)
      · intro e he
        rcases List.mem_append.mp he with he | he
        · exact hold e he
        · rw [List.mem_singleton] at he
          subst he
          exact ⟨⟨call, next c.shared⟩, by simp, ho.1⟩
    | interfere f hf => exact ⟨hlater _ (D.interfere _ _ hinv hf), hold⟩

theorem Reach.neverRejects (hc : M.Reach C s₀ c) {i : ℕ} {th : Thread κ σ ε α}
    (hi : c.threads i = some th) (hb : (M.body th.call).NeverRejects) : th.promise.NeverRejects := by
  induction hc generalizing th with
  | init => simp [Config.initial] at hi
  | @step c m c' _ _ hs ih =>
    cases hs with
    | @start j call hj =>
      by_cases hij : i = j
      · subst hij
        simp only [Function.update_self, Option.some.injEq] at hi
        subst hi
        exact hb
      · exact ih (by simpa [Function.update_of_ne hij] using hi) hb
    | @run j call effect next hj =>
      by_cases hij : i = j
      · subst hij
        simp only [Function.update_self, Option.some.injEq] at hi
        subst hi
        exact (ih hj hb).next c.shared
      · exact ih (by simpa [Function.update_of_ne hij] using hi) hb
    | interfere f hf => exact ih hi hb

/-- What no interference brings about, some statement did. -/
theorem Discipline.cause (D : M.Discipline I T) (h₀ : I s₀) (hc : M.Reach C s₀ c)
    {Q : σ → Prop} (hQ₀ : ¬ Q s₀) (hQ : ∀ s t, I s → M.interfere s t → ¬ Q s → ¬ Q t)
    (h : Q c.shared) : ∃ e ∈ c.log, ¬ Q e.2.1 ∧ Q e.2.2 := by
  induction hc with
  | init => exact absurd h hQ₀
  | @step c m c' hc _ hs ih =>
    cases hs with
    | start call hi => exact ih h
    | @run i call effect next hi =>
      by_cases hQc : Q c.shared
      · obtain ⟨e, he, hq⟩ := ih hQc
        exact ⟨e, List.mem_append_left _ he, hq⟩
      · exact ⟨_, List.mem_append_right _ (List.mem_singleton_self _), hQc, h⟩
    | interfere f hf =>
      by_cases hQc : Q c.shared
      · exact ih hQc
      · exact absurd h (hQ _ _ (D.shared_inv h₀ hc) hf hQc)

/-! ### One-shot steps -/

def AtMostOnce {β : Type} (P : β → Prop) (l : List β) : Prop :=
  l.Pairwise fun a b => ¬ (P a ∧ P b)

theorem AtMostOnce.eq_of_mem {β : Type} {P : β → Prop} {l : List β} (h : AtMostOnce P l) {a b : β}
    (ha : a ∈ l) (hb : b ∈ l) (hPa : P a) (hPb : P b) : a = b := by
  induction h with
  | nil => simp at ha
  | @cons x l hx _ ih =>
    rcases List.mem_cons.mp ha with hax | hal <;> rcases List.mem_cons.mp hb with hbx | hbl
    · exact hax.trans hbx.symm
    · exact absurd ⟨hax ▸ hPa, hPb⟩ (hx b hbl)
    · exact absurd ⟨hbx ▸ hPb, hPa⟩ (hx a hal)
    · exact ih hal hbl

/-- A step that needs `taken` to be false and makes it true for good is made at most once. -/
theorem Discipline.once (D : M.Discipline I T) (h₀ : I s₀) (hc : M.Reach C s₀ c)
    (taken : σ → Prop) (take : σ → σ → Prop) (hkeep : ∀ s t, I s → T s t → taken s → taken t)
    (htake : ∀ s t, I s → T s t → take s t → ¬ taken s ∧ taken t) :
    AtMostOnce (fun e => take e.2.1 e.2.2) c.log ∧
      ((∃ e ∈ c.log, take e.2.1 e.2.2) → taken c.shared) := by
  induction hc with
  | init => exact ⟨.nil, by simp [Config.initial]⟩
  | @step c m c' hc _ hs ih =>
    obtain ⟨honce, htaken⟩ := ih
    obtain ⟨hinv, hth⟩ := D.reach h₀ hc
    cases hs with
    | start call hi => exact ⟨honce, htaken⟩
    | @run i call effect next hi =>
      have ho := ((hth i _ hi).step hinv).1
      constructor
      · refine List.pairwise_append.mpr ⟨honce, List.pairwise_singleton _ _, ?_⟩
        rintro e he e' he' ⟨hte, hte'⟩
        rw [List.mem_singleton] at he'
        subst he'
        exact (htake _ _ hinv ho hte').1 (htaken ⟨e, he, hte⟩)
      · rintro ⟨e, he, hte⟩
        rcases List.mem_append.mp he with he | he
        · exact hkeep _ _ hinv ho (htaken ⟨e, he, hte⟩)
        · rw [List.mem_singleton] at he
          subst he
          exact (htake _ _ hinv ho hte).2
    | interfere f hf =>
      exact ⟨honce, fun he => hkeep _ _ hinv (D.interfere _ _ hinv hf) (htaken he)⟩

end System

end Sampraan.Library
