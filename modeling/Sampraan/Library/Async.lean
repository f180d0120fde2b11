import Mathlib.Data.List.Basic
import Mathlib.Logic.Relation
import Mathlib.Tactic.Common

/-!
Asynchronous calls over a shared state. A call is a promise: it has been
fulfilled, it has been rejected, or it is pending on its next statement, which
reads and writes the shared state in one atomic step. Between two statements
other calls may run.
-/

namespace Sampraan.Library

inductive Async (σ ε α : Type) where
  | fulfilled (value : α)
  | rejected (error : ε)
  | pending (effect : σ → σ) (next : σ → Async σ ε α)

namespace Async

variable {σ ε α β : Type}

def bind : Async σ ε α → (α → Async σ ε β) → Async σ ε β
  | .fulfilled a, k => k a
  | .rejected e, _ => .rejected e
  | .pending effect next, k => .pending effect (fun s => (next s).bind k)

def recover : Async σ ε α → (ε → Async σ ε α) → Async σ ε α
  | .fulfilled a, _ => .fulfilled a
  | .rejected e, k => k e
  | .pending effect next, k => .pending effect (fun s => (next s).recover k)

instance : Monad (Async σ ε) where
  pure := .fulfilled
  bind := bind

instance : MonadExcept ε (Async σ ε) where
  throw := .rejected
  tryCatch := recover

def statement (f : σ → α × σ) : Async σ ε α :=
  .pending (fun s => (f s).2) (fun s => .fulfilled (f s).1)

def query (f : σ → α) : Async σ ε α :=
  .pending (fun s => s) (fun s => .fulfilled (f s))

@[simp] theorem pure_eq (a : α) : (pure a : Async σ ε α) = .fulfilled a := rfl

@[simp] theorem throw_eq (e : ε) : (throw e : Async σ ε α) = .rejected e := rfl

@[simp] theorem fulfilled_bind (a : α) (k : α → Async σ ε β) :
    (Async.fulfilled a : Async σ ε α) >>= k = k a := rfl

@[simp] theorem rejected_bind (e : ε) (k : α → Async σ ε β) :
    (Async.rejected e : Async σ ε α) >>= k = .rejected e := rfl

@[simp] theorem pending_bind (effect : σ → σ) (next : σ → Async σ ε α) (k : α → Async σ ε β) :
    (Async.pending effect next : Async σ ε α) >>= k = .pending effect (fun s => next s >>= k) := rfl

@[simp] theorem statement_bind (f : σ → α × σ) (k : α → Async σ ε β) :
    (statement f : Async σ ε α) >>= k = .pending (fun s => (f s).2) (fun s => k (f s).1) := rfl

@[simp] theorem query_bind (f : σ → α) (k : α → Async σ ε β) :
    (query f : Async σ ε α) >>= k = .pending (fun s => s) (fun s => k (f s)) := rfl

theorem bind_assoc {γ : Type} (p : Async σ ε α) (k : α → Async σ ε β) (l : β → Async σ ε γ) :
    (p >>= k) >>= l = p >>= fun a => k a >>= l := by
  induction p with
  | fulfilled a => rfl
  | rejected e => rfl
  | pending effect next ih =>
    simp only [pending_bind, pending.injEq, true_and]
    funext s
    exact ih s

def Settled : Async σ ε α → Prop
  | .pending _ _ => False
  | _ => True

inductive NeverRejects : Async σ ε α → Prop
  | fulfilled (a : α) : NeverRejects (.fulfilled a)
  | pending (effect : σ → σ) {next : σ → Async σ ε α} (h : ∀ s, NeverRejects (next s)) :
    NeverRejects (.pending effect next)

theorem neverRejects_pure (a : α) : (pure a : Async σ ε α).NeverRejects := .fulfilled a

theorem neverRejects_statement (f : σ → α × σ) : (statement f : Async σ ε α).NeverRejects :=
  .pending _ fun _ => .fulfilled _

theorem neverRejects_query (f : σ → α) : (query f : Async σ ε α).NeverRejects :=
  .pending _ fun _ => .fulfilled _

theorem NeverRejects.ite {c : Prop} [Decidable c] {p q : Async σ ε α} (hp : p.NeverRejects)
    (hq : q.NeverRejects) : (if c then p else q).NeverRejects := by
  split
  · exact hp
  · exact hq

theorem NeverRejects.bind {p : Async σ ε α} {k : α → Async σ ε β} (hp : p.NeverRejects)
    (hk : ∀ a, (k a).NeverRejects) : (p >>= k).NeverRejects := by
  induction hp with
  | fulfilled a => exact hk a
  | pending effect _ ih => exact .pending effect ih

theorem neverRejects_recover (p : Async σ ε α) {k : ε → Async σ ε α} (hk : ∀ e, (k e).NeverRejects) :
    (p.recover k).NeverRejects := by
  induction p with
  | fulfilled a => exact .fulfilled a
  | rejected e => exact hk e
  | pending effect next ih => exact .pending effect ih

theorem NeverRejects.next {effect : σ → σ} {next : σ → Async σ ε α}
    (hp : (Async.pending effect next).NeverRejects) (s : σ) : (next s).NeverRejects := by
  cases hp with
  | pending _ h => exact h s

theorem NeverRejects.settled {p : Async σ ε α} (hp : p.NeverRejects) (hs : p.Settled) :
    ∃ a, p = .fulfilled a := by
  cases hp with
  | fulfilled a => exact ⟨a, rfl⟩
  | pending effect h => exact hs.elim

/-- As long as each statement finds a state with `A`, the call comes to be fulfilled with `R`. -/
inductive Delivers (A : σ → Prop) (R : α → Prop) : Async σ ε α → Prop
  | fulfilled {a : α} (hr : R a) : Delivers A R (.fulfilled a)
  | pending {effect : σ → σ} {next : σ → Async σ ε α} (h : ∀ s, A s → Delivers A R (next s)) :
    Delivers A R (.pending effect next)

section

variable {A : σ → Prop} {R : α → Prop} {R' : β → Prop}

theorem delivers_statement {f : σ → α × σ} (h : ∀ s, A s → R (f s).1) :
    (statement f : Async σ ε α).Delivers A R :=
  .pending fun s hs => .fulfilled (h s hs)

theorem delivers_query {f : σ → α} (h : ∀ s, A s → R (f s)) :
    (query f : Async σ ε α).Delivers A R :=
  .pending fun s hs => .fulfilled (h s hs)

theorem Delivers.bind {p : Async σ ε α} {k : α → Async σ ε β} (hp : p.Delivers A R)
    (hk : ∀ a, R a → (k a).Delivers A R') : (p >>= k).Delivers A R' := by
  induction hp with
  | fulfilled hr => exact hk _ hr
  | pending _ ih => exact .pending ih

theorem Delivers.recover {p : Async σ ε α} (hp : p.Delivers A R) (k : ε → Async σ ε α) :
    (p.recover k).Delivers A R := by
  induction hp with
  | fulfilled hr => exact .fulfilled hr
  | pending _ ih => exact .pending ih

end

/-! ### What every statement of a call does -/

/-- Every statement the call can ever run, found in a state with `I`, makes a step of `T`. -/
inductive Obeys (I : σ → Prop) (T : σ → σ → Prop) : Async σ ε α → Prop
  | fulfilled (a : α) : Obeys I T (.fulfilled a)
  | rejected (e : ε) : Obeys I T (.rejected e)
  | pending {effect : σ → σ} {next : σ → Async σ ε α} (h : ∀ s, I s → T s (effect s))
    (hn : ∀ s, I s → Obeys I T (next s)) : Obeys I T (.pending effect next)

variable {I : σ → Prop} {T : σ → σ → Prop}

theorem Obeys.step {effect : σ → σ} {next : σ → Async σ ε α}
    (hp : (Async.pending effect next).Obeys I T) {s : σ} (hs : I s) :
    T s (effect s) ∧ (next s).Obeys I T := by
  cases hp with
  | pending h hn => exact ⟨h s hs, hn s hs⟩

theorem Obeys.mono {T' : σ → σ → Prop} {p : Async σ ε α} (hp : p.Obeys I T)
    (hT : ∀ s t, T s t → T' s t) : p.Obeys I T' := by
  induction hp with
  | fulfilled a => exact .fulfilled a
  | rejected e => exact .rejected e
  | pending h _ ih => exact .pending (fun s hs => hT _ _ (h s hs)) ih

theorem obeys_pure (a : α) : (pure a : Async σ ε α).Obeys I T := .fulfilled a

theorem obeys_throw (e : ε) : (throw e : Async σ ε α).Obeys I T := .rejected e

theorem Obeys.ite {c : Prop} [Decidable c] {p q : Async σ ε α} (hp : p.Obeys I T)
    (hq : q.Obeys I T) : (if c then p else q).Obeys I T := by
  split
  · exact hp
  · exact hq

theorem Obeys.bind {p : Async σ ε α} {k : α → Async σ ε β} (hp : p.Obeys I T)
    (hk : ∀ a, (k a).Obeys I T) : (p >>= k).Obeys I T := by
  induction hp with
  | fulfilled a => exact hk a
  | rejected e => exact .rejected e
  | pending h _ ih => exact .pending h ih

theorem Obeys.recover {p : Async σ ε α} {k : ε → Async σ ε α} (hp : p.Obeys I T)
    (hk : ∀ e, (k e).Obeys I T) : (p.recover k).Obeys I T := by
  induction hp with
  | fulfilled a => exact .fulfilled a
  | rejected e => exact hk e
  | pending h _ ih => exact .pending h ih

theorem obeys_statement {f : σ → α × σ} (h : ∀ s, I s → T s (f s).2) :
    (statement f : Async σ ε α).Obeys I T :=
  .pending h fun _ _ => .fulfilled _

theorem obeys_query {f : σ → α} (h : ∀ s, T s s) : (query f : Async σ ε α).Obeys I T :=
  .pending (fun s _ => h s) fun _ _ => .fulfilled _

/-! ### How a call settles -/

/-- `Settles W p s h o`: started after the state `s`, the call ran exactly the statements `h` (each
given by the states before and after it) and settled with `o`. Between two statements the state
moves on as `W` allows. -/
inductive Settles (W : σ → σ → Prop) : Async σ ε α → σ → List (σ × σ) → Except ε α → Prop
  | fulfilled (a : α) (s : σ) : Settles W (.fulfilled a) s [] (.ok a)
  | rejected (e : ε) (s : σ) : Settles W (.rejected e) s [] (.error e)
  | pending {effect : σ → σ} {next : σ → Async σ ε α} {s t : σ} {h : List (σ × σ)}
    {o : Except ε α} (ht : W s t) (hn : Settles W (next t) (effect t) h o) :
    Settles W (.pending effect next) s ((t, effect t) :: h) o

def ofExcept : Except ε α → Async σ ε α
  | .ok a => .fulfilled a
  | .error e => .rejected e

theorem Settled.eq_ofExcept {p : Async σ ε α} (h : p.Settled) : ∃ o, p = ofExcept o := by
  cases p with
  | fulfilled a => exact ⟨.ok a, rfl⟩
  | rejected e => exact ⟨.error e, rfl⟩
  | pending effect next => exact h.elim

variable {W : σ → σ → Prop}

@[simp] theorem settles_fulfilled {b : α} {s : σ} {h : List (σ × σ)} {o : Except ε α} :
    (Async.fulfilled b : Async σ ε α).Settles W s h o ↔ h = [] ∧ o = .ok b := by
  constructor
  · rintro ⟨⟩
    exact ⟨rfl, rfl⟩
  · rintro ⟨rfl, rfl⟩
    exact .fulfilled b s

theorem settles_pure {b : α} {s : σ} {h : List (σ × σ)} {o : Except ε α} :
    (pure b : Async σ ε α).Settles W s h o ↔ h = [] ∧ o = .ok b := settles_fulfilled

@[simp] theorem settles_rejected {e : ε} {s : σ} {h : List (σ × σ)} {o : Except ε α} :
    (Async.rejected e : Async σ ε α).Settles W s h o ↔ h = [] ∧ o = .error e := by
  constructor
  · rintro ⟨⟩
    exact ⟨rfl, rfl⟩
  · rintro ⟨rfl, rfl⟩
    exact .rejected e s

theorem settles_pending {effect : σ → σ} {next : σ → Async σ ε α} {s : σ} {h : List (σ × σ)}
    {o : Except ε α} :
    (Async.pending effect next).Settles W s h o ↔
      ∃ t h', W s t ∧ h = (t, effect t) :: h' ∧ (next t).Settles W (effect t) h' o := by
  constructor
  · rintro (_ | _ | ⟨ht, hn⟩)
    exact ⟨_, _, ht, rfl, hn⟩
  · rintro ⟨t, h', ht, rfl, hn⟩
    exact .pending ht hn

theorem settles_statement {f : σ → α × σ} {s : σ} {h : List (σ × σ)} {o : Except ε α} :
    (statement f : Async σ ε α).Settles W s h o ↔
      ∃ t, W s t ∧ h = [(t, (f t).2)] ∧ o = .ok (f t).1 := by
  simp only [statement, settles_pending, settles_fulfilled]
  constructor
  · rintro ⟨t, h', ht, rfl, rfl, ho⟩
    exact ⟨t, ht, rfl, ho⟩
  · rintro ⟨t, ht, rfl, ho⟩
    exact ⟨t, [], ht, rfl, rfl, ho⟩

theorem settles_query {f : σ → α} {s : σ} {h : List (σ × σ)} {o : Except ε α} :
    (query f : Async σ ε α).Settles W s h o ↔
      ∃ t, W s t ∧ h = [(t, t)] ∧ o = .ok (f t) :=
  settles_statement (f := fun s => (f s, s))

theorem settles_statement_bind {f : σ → β × σ} {k : β → Async σ ε α} {s : σ} {h : List (σ × σ)}
    {o : Except ε α} :
    (statement f >>= k).Settles W s h o ↔
      ∃ t h', W s t ∧ h = (t, (f t).2) :: h' ∧ (k (f t).1).Settles W (f t).2 h' o :=
  settles_pending

theorem settles_query_bind {f : σ → β} {k : β → Async σ ε α} {s : σ} {h : List (σ × σ)}
    {o : Except ε α} :
    (query f >>= k).Settles W s h o ↔
      ∃ t h', W s t ∧ h = (t, t) :: h' ∧ (k (f t)).Settles W t h' o :=
  settles_pending

theorem settles_ofExcept (o : Except ε α) (s : σ) : (ofExcept o).Settles W s [] o := by
  cases o with
  | ok a => exact .fulfilled a s
  | error e => exact .rejected e s

theorem Settles.weaken {R : σ → σ → Prop} (hW : ∀ s s' t, R s s' → W s' t → W s t)
    {p : Async σ ε α} {s s' : σ} {h : List (σ × σ)} {o : Except ε α} (hs : R s s')
    (hc : p.Settles W s' h o) : p.Settles W s h o := by
  cases hc with
  | fulfilled b => exact .fulfilled b s
  | rejected e => exact .rejected e s
  | pending ht hn => exact .pending (hW _ _ _ hs ht) hn

theorem Obeys.history {p : Async σ ε α} {s : σ} {h : List (σ × σ)} {o : Except ε α}
    (hp : p.Obeys I T) (hW : ∀ s t, W s t → I t) (hc : p.Settles W s h o) :
    ∀ e ∈ h, T e.1 e.2 := by
  induction hc with
  | fulfilled b => simp
  | rejected e => simp
  | pending ht _ ih =>
    have ho := hp.step (hW _ _ ht)
    intro e he
    rcases List.mem_cons.mp he with rfl | he
    · exact ho.1
    · exact ih ho.2 e he

/-- Like `Obeys`, for a call started after `s` whose statements are found in the states that `W`
allows after the statement before. -/
inductive Behaves (W T : σ → σ → Prop) : Async σ ε α → σ → Prop
  | fulfilled (a : α) (s : σ) : Behaves W T (.fulfilled a) s
  | rejected (e : ε) (s : σ) : Behaves W T (.rejected e) s
  | pending {effect : σ → σ} {next : σ → Async σ ε α} {s : σ} (h : ∀ t, W s t → T t (effect t))
    (hn : ∀ t, W s t → Behaves W T (next t) (effect t)) : Behaves W T (.pending effect next) s

theorem Behaves.step {effect : σ → σ} {next : σ → Async σ ε α} {s t : σ}
    (hp : (Async.pending effect next).Behaves W T s) (ht : W s t) :
    T t (effect t) ∧ (next t).Behaves W T (effect t) := by
  cases hp with
  | pending h hn => exact ⟨h t ht, hn t ht⟩

theorem Obeys.behaves {p : Async σ ε α} (hp : p.Obeys I T) (hW : ∀ s t, W s t → I t) (s : σ) :
    p.Behaves W T s := by
  induction hp generalizing s with
  | fulfilled a => exact .fulfilled a s
  | rejected e => exact .rejected e s
  | pending h _ ih => exact .pending (fun t ht => h t (hW _ _ ht)) fun t ht => ih t (hW _ _ ht) _

theorem Behaves.later {p : Async σ ε α} {s s' : σ} (hp : p.Behaves W T s)
    (hW : ∀ t, W s' t → W s t) : p.Behaves W T s' := by
  cases hp with
  | fulfilled a => exact .fulfilled a s'
  | rejected e => exact .rejected e s'
  | pending h hn => exact .pending (fun t ht => h t (hW t ht)) fun t ht => hn t (hW t ht)

theorem behaves_statement_bind {f : σ → β × σ} {k : β → Async σ ε α} {s : σ}
    (h : ∀ t, W s t → T t (f t).2 ∧ (k (f t).1).Behaves W T (f t).2) :
    (statement f >>= k).Behaves W T s :=
  .pending (fun t ht => (h t ht).1) fun t ht => (h t ht).2

theorem behaves_query_bind {f : σ → β} {k : β → Async σ ε α} {s : σ}
    (h : ∀ t, W s t → T t t ∧ (k (f t)).Behaves W T t) : (query f >>= k).Behaves W T s :=
  .pending (fun t ht => (h t ht).1) fun t ht => (h t ht).2

theorem Behaves.ite {c : Prop} [Decidable c] {p q : Async σ ε α} {s : σ}
    (hp : p.Behaves W T s) (hq : q.Behaves W T s) : (if c then p else q).Behaves W T s := by
  split
  · exact hp
  · exact hq

theorem Behaves.bind {p : Async σ ε α} {k : α → Async σ ε β} {s : σ} (hp : p.Behaves W T s)
    (hk : ∀ a s', (k a).Behaves W T s') : (p >>= k).Behaves W T s := by
  induction hp with
  | fulfilled a s => exact hk a s
  | rejected e s => exact .rejected e s
  | pending h _ ih => exact .pending h ih

theorem Obeys.behaves_of_kept {P : σ → Prop} {p : Async σ ε α} {s : σ}
    (hp : p.Obeys (fun s => I s ∧ P s) T) (hW : ∀ s t, W s t → I t ∧ (P s → P t))
    (hT : ∀ s t, I s → T s t → P s → P t) (hs : P s) : p.Behaves W T s := by
  induction hp generalizing s with
  | fulfilled a => exact .fulfilled a s
  | rejected e => exact .rejected e s
  | @pending effect next h _ ih =>
    have hfind : ∀ t, W s t → I t ∧ P t := fun t ht => ⟨(hW _ _ ht).1, (hW _ _ ht).2 hs⟩
    refine .pending (fun t ht => h t (hfind t ht)) fun t ht => ih t (hfind t ht) ?_
    exact hT _ _ (hfind t ht).1 (h t (hfind t ht)) (hfind t ht).2

def lastState : σ → List (σ × σ) → σ
  | s, [] => s
  | _, e :: h => lastState e.2 h

theorem settles_bind {p : Async σ ε α} {k : α → Async σ ε β} {s : σ} {h : List (σ × σ)}
    {o : Except ε β} :
    (p >>= k).Settles W s h o ↔
      (∃ e, o = .error e ∧ p.Settles W s h (.error e)) ∨
        ∃ h₁ h₂ a, h = h₁ ++ h₂ ∧ p.Settles W s h₁ (.ok a) ∧
          (k a).Settles W (lastState s h₁) h₂ o := by
  induction p generalizing s h with
  | fulfilled a => simp [lastState]
  | rejected e => simp [and_comm]
  | pending effect next ih =>
    simp only [pending_bind, settles_pending, ih]
    constructor
    · rintro ⟨t, h', ht, rfl, ⟨e, ho, he⟩ | ⟨h₁, h₂, a, rfl, hp, hk⟩⟩
      · exact .inl ⟨e, ho, t, h', ht, rfl, he⟩
      · exact .inr ⟨(t, effect t) :: h₁, h₂, a, rfl, ⟨t, h₁, ht, rfl, hp⟩, hk⟩
    · rintro (⟨e, ho, t, h', ht, rfl, he⟩ | ⟨_, h₂, a, rfl, ⟨t, h₁, ht, rfl, hp⟩, hk⟩)
      · exact ⟨t, h', ht, rfl, .inl ⟨e, ho, he⟩⟩
      · exact ⟨t, h₁ ++ h₂, ht, rfl, .inr ⟨h₁, h₂, a, rfl, hp, hk⟩⟩

theorem settles_bind_ok {p : Async σ ε α} {k : α → Async σ ε β} {s : σ} {h : List (σ × σ)} {b : β} :
    (p >>= k).Settles W s h (.ok b) ↔
      ∃ h₁ h₂ a, h = h₁ ++ h₂ ∧ p.Settles W s h₁ (.ok a) ∧
        (k a).Settles W (lastState s h₁) h₂ (.ok b) := by
  simp [settles_bind]

theorem NeverRejects.settles {p : Async σ ε α} (hp : p.NeverRejects) {s : σ} {h : List (σ × σ)}
    {o : Except ε α} (hc : p.Settles W s h o) : ∃ a, o = .ok a := by
  induction hc with
  | fulfilled a s => exact ⟨a, rfl⟩
  | rejected e s => cases hp
  | pending _ _ ih => exact ih (hp.next _)

theorem Delivers.settles {A : σ → Prop} {R : α → Prop} {p : Async σ ε α} (hp : p.Delivers A R) {s : σ}
    {h : List (σ × σ)} {o : Except ε α} (hc : p.Settles W s h o) (hA : ∀ e ∈ h, A e.1) :
    ∃ a, o = .ok a ∧ R a := by
  induction hc with
  | fulfilled a s =>
    cases hp with
    | fulfilled hr => exact ⟨a, rfl, hr⟩
  | rejected e s => cases hp
  | pending _ _ ih =>
    cases hp with
    | pending hnext =>
      exact ih (hnext _ (hA _ List.mem_cons_self)) fun e he => hA e (List.mem_cons_of_mem _ he)

theorem Settles.strengthen {P : σ → Prop} {p : Async σ ε α} {s : σ} {h : List (σ × σ)}
    {o : Except ε α} (hp : p.Obeys I T) (hW : ∀ s t, W s t → I t ∧ (P s → P t))
    (hT : ∀ s t, I s → T s t → P s → P t) (hs : P s) (hc : p.Settles W s h o) :
    p.Settles (fun s t => W s t ∧ P t) s h o := by
  induction hc with
  | fulfilled a s => exact .fulfilled a s
  | rejected e s => exact .rejected e s
  | pending ht _ ih =>
    obtain ⟨hinv, hP⟩ := hW _ _ ht
    have ho := hp.step hinv
    exact .pending ⟨ht, hP hs⟩ (ih ho.2 (hT _ _ hinv ho.1 (hP hs)))

/-! ### A call that is not interrupted -/

/-- The statements the call runs from `s` on when nothing comes between, and what it settles
with. -/
def runAlone : Async σ ε α → σ → List (σ × σ) × Except ε α
  | .fulfilled a, _ => ([], .ok a)
  | .rejected e, _ => ([], .error e)
  | .pending effect next, s =>
    ((s, effect s) :: ((next s).runAlone (effect s)).1, ((next s).runAlone (effect s)).2)

theorem settles_runAlone {p : Async σ ε α} {s : σ} (hW : ∀ s, I s → W s s)
    (hT : ∀ s t, I s → T s t → I t) (hp : p.Obeys I T) (hs : I s) :
    p.Settles W s (p.runAlone s).1 (p.runAlone s).2 := by
  induction p generalizing s with
  | fulfilled a => exact .fulfilled a s
  | rejected e => exact .rejected e s
  | pending effect next ih =>
    have ho := hp.step hs
    exact .pending (hW s hs) (ih s ho.2 (hT _ _ hs ho.1))

theorem settles_alone (p : Async σ ε α) (s : σ) :
    p.Settles Eq s (p.runAlone s).1 (p.runAlone s).2 := by
  induction p generalizing s with
  | fulfilled a => exact .fulfilled a s
  | rejected e => exact .rejected e s
  | pending effect next ih => exact .pending rfl (ih s (effect s))

theorem lastState_append (s : σ) (h h' : List (σ × σ)) :
    lastState s (h ++ h') = lastState (lastState s h) h' := by
  induction h generalizing s with
  | nil => rfl
  | cons e h ih => exact ih e.2

/-- What the call settles with when nothing comes between its statements, and the state it leaves. -/
def run (p : Async σ ε α) (s : σ) : Except ε α × σ := ((p.runAlone s).2, lastState s (p.runAlone s).1)

@[simp] theorem run_fulfilled (a : α) (s : σ) : (Async.fulfilled a : Async σ ε α).run s = (.ok a, s) :=
  rfl

@[simp] theorem run_rejected (e : ε) (s : σ) :
    (Async.rejected e : Async σ ε α).run s = (.error e, s) := rfl

@[simp] theorem run_pending (effect : σ → σ) (next : σ → Async σ ε α) (s : σ) :
    (Async.pending effect next).run s = (next s).run (effect s) := rfl

@[simp] theorem run_statement (f : σ → α × σ) (s : σ) :
    (statement f : Async σ ε α).run s = (.ok (f s).1, (f s).2) := rfl

@[simp] theorem run_query (f : σ → α) (s : σ) : (query f : Async σ ε α).run s = (.ok (f s), s) := rfl

theorem run_bind (p : Async σ ε α) (k : α → Async σ ε β) (s : σ) :
    (p >>= k).run s =
      match p.run s with
      | (.ok a, t) => (k a).run t
      | (.error e, t) => (.error e, t) := by
  induction p generalizing s with
  | fulfilled a => rfl
  | rejected e => rfl
  | pending effect next ih => exact ih s (effect s)

theorem run_bind_ok {p : Async σ ε α} {k : α → Async σ ε β} {s t : σ} {a : α}
    (hp : p.run s = (.ok a, t)) : (p >>= k).run s = (k a).run t := by
  rw [run_bind, hp]

theorem run_bind_error {p : Async σ ε α} {k : α → Async σ ε β} {s t : σ} {e : ε}
    (hp : p.run s = (.error e, t)) : (p >>= k).run s = (.error e, t) := by
  rw [run_bind, hp]

theorem run_recover (p : Async σ ε α) (k : ε → Async σ ε α) (s : σ) :
    (p.recover k).run s =
      match p.run s with
      | (.ok a, t) => (.ok a, t)
      | (.error e, t) => (k e).run t := by
  induction p generalizing s with
  | fulfilled a => rfl
  | rejected e => rfl
  | pending effect next ih => exact ih s (effect s)

theorem run_recover_ok {p : Async σ ε α} {k : ε → Async σ ε α} {s t : σ} {a : α}
    (hp : p.run s = (.ok a, t)) : (p.recover k).run s = (.ok a, t) := by
  rw [run_recover, hp]

/-- Run without interruption from `s`, the call is fulfilled with `a` and leaves `t`. -/
def Ends (p : Async σ ε α) (s : σ) (a : α) (t : σ) : Prop :=
  ∃ h, p.Settles Eq s h (.ok a) ∧ lastState s h = t

section

variable {p : Async σ ε α} {k : α → Async σ ε β} {s t u : σ} {a : α} {b : β}

theorem ends_pure : (pure a : Async σ ε α).Ends s a s := ⟨[], .fulfilled a s, rfl⟩

theorem ends_statement {f : σ → α × σ} : (statement f : Async σ ε α).Ends s (f s).1 (f s).2 :=
  ⟨_, settles_statement.mpr ⟨s, rfl, rfl, rfl⟩, rfl⟩

theorem ends_query {f : σ → α} (h : f s = a) : (query f : Async σ ε α).Ends s a s :=
  h ▸ ends_statement (f := fun s => (f s, s))

theorem Ends.bind (hp : p.Ends s a t) (hk : (k a).Ends t b u) : (p >>= k).Ends s b u := by
  obtain ⟨h, hp, rfl⟩ := hp
  obtain ⟨h', hk, rfl⟩ := hk
  exact ⟨h ++ h', settles_bind_ok.mpr ⟨h, h', a, rfl, hp, hk⟩, lastState_append s h h'⟩

def Runs (p : Async σ ε α) (s : σ) (e : σ × σ) : Prop := e ∈ (p.runAlone s).1

theorem runAlone_eq {h : List (σ × σ)} {o : Except ε α} (hp : p.Settles Eq s h o) :
    p.runAlone s = (h, o) := by
  induction hp with
  | fulfilled a s => rfl
  | rejected e s => rfl
  | pending ht _ ih =>
    subst ht
    rw [runAlone, ih]

variable {e : σ × σ}

theorem Runs.bind (hp : p.Runs s e) : (p >>= k).Runs s e := by
  induction p generalizing s with
  | fulfilled a => exact absurd hp List.not_mem_nil
  | rejected err => exact absurd hp List.not_mem_nil
  | pending effect next ih =>
    rcases List.mem_cons.mp hp with hfirst | hrest
    · exact List.mem_cons.mpr (.inl hfirst)
    · exact List.mem_cons.mpr (.inr (ih s hrest))

theorem Ends.runs_bind (hp : p.Ends s a t) (hk : (k a).Runs t e) : (p >>= k).Runs s e := by
  obtain ⟨h, hp, rfl⟩ := hp
  have hbind : (p >>= k).Settles Eq s (h ++ ((k a).runAlone (lastState s h)).1)
      ((k a).runAlone (lastState s h)).2 :=
    settles_bind.mpr (.inr ⟨h, _, a, rfl, hp, settles_alone (k a) _⟩)
  rw [Runs, runAlone_eq hbind]
  exact List.mem_append_right _ hk

end

/-! ### Calls that do one thing only when they end well -/

/-- Unless the call ends `good`, all its statements make steps of `T`. -/
def KeepsUnless (W T : σ → σ → Prop) (good : Except ε α → Prop) (p : Async σ ε α) : Prop :=
  ∀ s h o, p.Settles W s h o → (∀ e ∈ h, T e.1 e.2) ∨ good o

theorem Obeys.keepsUnless {p : Async σ ε α} {good : Except ε α → Prop} (hp : p.Obeys I T)
    (hW : ∀ s t, W s t → I t) : p.KeepsUnless W T good :=
  fun _ _ _ hc => .inl (hp.history hW hc)

theorem KeepsUnless.bind {p : Async σ ε α} {k : α → Async σ ε β} {good : Except ε β → Prop}
    (hp : p.Obeys I T) (hW : ∀ s t, W s t → I t) (hk : ∀ a, (k a).KeepsUnless W T good) :
    (p >>= k).KeepsUnless W T good := by
  intro s h o hc
  rcases settles_bind.mp hc with ⟨e, -, he⟩ | ⟨h₁, h₂, a, rfl, hpa, hka⟩
  · exact .inl (hp.history hW he)
  · rcases hk a _ _ _ hka with hrest | hgood
    · refine .inl fun e he => ?_
      rcases List.mem_append.mp he with he | he
      · exact hp.history hW hpa e he
      · exact hrest e he
    · exact .inr hgood

end Async

end Sampraan.Library
