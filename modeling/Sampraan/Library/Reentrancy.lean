import Sampraan.Library.Machine

/-!
Machines some of whose calls end by handing control to foreign code, which may
call the machine again. A call that has committed its own writes is undone with
everything after it when the foreign code reverts.
-/

namespace Sampraan.Library

/-- One way in which foreign code runs. Code that looks at the machine's state or at the outcome
of its own calls runs, each time, in one of these ways. -/
inductive Behaviour (κ ε : Type) where
  | returns
  | reverts (e : ε)
  /-- Calls the machine; if that call hands control on, `inner` is what runs there. -/
  | reenter (k : κ) (inner next : Behaviour κ ε)
  /-- Runs `body` in a frame of its own, whose revert is caught. -/
  | frame (body next : Behaviour κ ε)

variable {κ σ ε : Type}

namespace Machine

/-- A state and the calls that led to it, in the order of their own writes. -/
abbrev Ledger (κ σ : Type) := σ × List (κ × σ × σ)

def commit (w : Ledger κ σ) : Except ε (Ledger κ σ) → Ledger κ σ
  | .ok w' => w'
  | .error _ => w

def enter (M : Machine κ σ ε) (callsOut : κ → Bool)
    (foreign : Ledger κ σ → Except ε (Ledger κ σ)) (k : κ) (w : Ledger κ σ) :
    Except ε (Ledger κ σ) :=
  match M.run k w.1 with
  | .error e => .error e
  | .ok t =>
    if callsOut k then foreign (t, w.2 ++ [(k, w.1, t)]) else .ok (t, w.2 ++ [(k, w.1, t)])

def foreign (M : Machine κ σ ε) (callsOut : κ → Bool) :
    Behaviour κ ε → Ledger κ σ → Except ε (Ledger κ σ)
  | .returns, w => .ok w
  | .reverts e, _ => .error e
  | .reenter k inner next, w =>
    M.foreign callsOut next (commit w (M.enter callsOut (M.foreign callsOut inner) k w))
  | .frame body next, w => M.foreign callsOut next (commit w (M.foreign callsOut body w))

/-- The machine whose calls come with the foreign code that they run into. -/
def reentrant (M : Machine κ σ ε) (callsOut : κ → Bool) :
    Machine (κ × Behaviour κ ε) (Ledger κ σ) ε where
  run k w := M.enter callsOut (M.foreign callsOut k.2) k.1 w

variable {M : Machine κ σ ε} {callsOut : κ → Bool} {s₀ : σ} {w w' : Ledger κ σ}

def Linear (M : Machine κ σ ε) (s₀ : σ) (w : Ledger κ σ) : Prop :=
  M.Run (fun _ _ => True) s₀ w.2 w.1

theorem Linear.commit {r : Except ε (Ledger κ σ)} (hw : M.Linear s₀ w)
    (hr : ∀ w', r = .ok w' → M.Linear s₀ w') : M.Linear s₀ (commit w r) := by
  cases r with
  | ok w' => exact hr w' rfl
  | error e => exact hw

theorem Linear.enter {f : Ledger κ σ → Except ε (Ledger κ σ)} {k : κ} (hw : M.Linear s₀ w)
    (hf : ∀ v v', M.Linear s₀ v → f v = .ok v' → M.Linear s₀ v')
    (hr : M.enter callsOut f k w = .ok w') : M.Linear s₀ w' := by
  unfold Machine.enter at hr
  cases ht : M.run k w.1 with
  | error e =>
    rw [ht] at hr
    cases hr
  | ok t =>
    have hstep : M.Linear s₀ (t, w.2 ++ [(k, w.1, t)]) := Run.call hw trivial ht
    simp only [ht] at hr
    split at hr
    · exact hf _ _ hstep hr
    · obtain rfl := Except.ok.inj hr
      exact hstep

theorem Linear.foreign (b : Behaviour κ ε) (hw : M.Linear s₀ w)
    (hr : M.foreign callsOut b w = .ok w') : M.Linear s₀ w' := by
  induction b generalizing w w' with
  | returns =>
    obtain rfl := Except.ok.inj hr
    exact hw
  | reverts e => cases hr
  | reenter k inner next hinner hnext =>
    refine hnext (hw.commit fun v hv => ?_) hr
    exact hw.enter (fun _ _ h h' => hinner h h') hv
  | frame body next hbody hnext => exact hnext (hw.commit fun v hv => hbody hw hv) hr

/-- Whatever the foreign code does, the ledger of a run is one of the machine alone. -/
theorem Run.linear {C : κ × Behaviour κ ε → Ledger κ σ → Prop}
    {h : List ((κ × Behaviour κ ε) × Ledger κ σ × Ledger κ σ)}
    (hr : (M.reentrant callsOut).Run C (s₀, []) h w) : M.Linear s₀ w :=
  hr.invariant Run.init fun _ _ _ hs _ ht => hs.enter (fun _ _ h h' => h.foreign _ h') ht

theorem enter_reverts {f : Ledger κ σ → Except ε (Ledger κ σ)} {k : κ} {t : σ} {e : ε}
    (hout : callsOut k = true) (ht : M.run k w.1 = .ok t)
    (hf : f (t, w.2 ++ [(k, w.1, t)]) = .error e) : M.enter callsOut f k w = .error e := by
  simp [enter, ht, hout, hf]

end Machine

end Sampraan.Library
