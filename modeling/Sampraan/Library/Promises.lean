import Mathlib.Data.Finset.Basic
import Mathlib.Data.Finset.Insert
import Mathlib.Logic.Function.Basic

/-!
The promises of one process, each named by what makes it. A continuation
registered with `then` waits until its promise has settled; from then on it can
run, once and in any order among those that can. A promise settles once.
-/

namespace Sampraan.Library

structure Promises (π ρ β : Type) where
  outcome : π → Option β
  reactions : Finset (π × ρ)

variable {π ρ β : Type}

namespace Promises

/-- `p.then(…)`. -/
def chain [DecidableEq π] [DecidableEq ρ] (ps : Promises π ρ β) (p : π) (r : ρ) : Promises π ρ β :=
  { ps with reactions := insert (p, r) ps.reactions }

def settle [DecidableEq π] (ps : Promises π ρ β) (p : π) (o : β) : Promises π ρ β :=
  { ps with outcome := Function.update ps.outcome p (some o) }

/-- The continuation leaves the list to run. -/
def take [DecidableEq π] [DecidableEq ρ] (ps : Promises π ρ β) (e : π × ρ) : Promises π ρ β :=
  { ps with reactions := ps.reactions.erase e }

def Ready (ps : Promises π ρ β) (e : π × ρ) (o : β) : Prop :=
  e ∈ ps.reactions ∧ ps.outcome e.1 = some o

variable [DecidableEq π] (ps : Promises π ρ β) (p : π) (o : β)

@[simp] theorem settle_reactions : (ps.settle p o).reactions = ps.reactions := rfl

@[simp] theorem settle_outcome (p' : π) :
    (ps.settle p o).outcome p' = if p' = p then some o else ps.outcome p' := by
  simp [settle, Function.update_apply]

variable [DecidableEq ρ] (r : ρ) (e : π × ρ)

@[simp] theorem chain_outcome : (ps.chain p r).outcome = ps.outcome := rfl

@[simp] theorem mem_chain (e' : π × ρ) :
    e' ∈ (ps.chain p r).reactions ↔ e' = (p, r) ∨ e' ∈ ps.reactions := by
  simp [chain]

@[simp] theorem take_outcome : (ps.take e).outcome = ps.outcome := rfl

@[simp] theorem mem_take (e' : π × ρ) :
    e' ∈ (ps.take e).reactions ↔ e' ≠ e ∧ e' ∈ ps.reactions := by
  simp [take]

end Promises

end Sampraan.Library
