import Sampraan.Backend.Environment
import Sampraan.Library.Promises
import Mathlib.Logic.Relation
import Mathlib.Data.Finset.Sort

/-!
`enqueueSubmit` of `besu-blockchain.service.ts`. The adapter keeps one promise,
to which each call appends a link: its `attempt` runs when the promise of the
call before has settled, and the call's own promise, with its rejection turned
into `undefined`, is what the next call waits for.
-/

namespace Sampraan.Blockchain.SubmitQueue

open Backend Library

/-! ### Errors -/

inductive ErrorCode where
  | text (code : String)
  | number (code : ℤ)
  deriving DecidableEq

/-- What a promise is rejected with: an object with its code and its message, or anything else. -/
inductive Thrown where
  | object (code : Option ErrorCode) (message : Option String)
  | primitive
  deriving DecidableEq

def includes (text pattern : String) : Bool := decide (pattern.toList <:+: text.toList)

/-- `/nonce (has already been used|too low)|already known|replacement transaction/` -/
def nonceMessages : List String :=
  ["nonce has already been used", "nonce too low", "already known", "replacement transaction"]

def isNonceError : Thrown → Bool
  | .primitive => false
  | .object code message =>
    if code = some (.text "NONCE_EXPIRED") ∨ code = some (.text "NONCE_COLLISION") ∨
        code = some (.number (-32001)) then true
    else nonceMessages.any (includes (toLowerCase (message.getD "")))

/-! ### The queue -/

/-- The promises of the adapter: `Promise.resolve()`, and for each call what `task()` returns the
first and the second time, what `attempt()` returns, the `run` that the caller gets, and what
`submitMutex` is set to. -/
inductive PromiseName where
  | resolved
  | task (call : ℕ) (again : Bool)
  | attempt (call : ℕ)
  | run (call : ℕ)
  | stored (call : ℕ)
  deriving DecidableEq

/-- The continuations: `attempt` itself, what follows `await task()` the first and the second time,
the `run` that follows the promise of `attempt()`, and `catch(() => undefined)`. -/
inductive Reaction where
  | attempt (call : ℕ)
  | first (call : ℕ)
  | second (call : ℕ)
  | adopt (call : ℕ)
  | swallow (call : ℕ)
  deriving DecidableEq

/-- `none` is `undefined`. -/
abbrev Outcome (α : Type) := Except Thrown (Option α)

inductive Event (α : Type) where
  | started (call : ℕ)
  | ended (call : ℕ) (outcome : Outcome α)

structure Queue (τ α : Type) where
  promises : Promises PromiseName Reaction (Outcome α)
  submitMutex : PromiseName
  tasks : List τ
  log : List (Event α)

variable {τ α : Type}

namespace Queue

def initial : Queue τ α where
  promises :=
    { outcome := fun p => if p = .resolved then some (.ok none) else none
      reactions := ∅ }
  submitMutex := .resolved
  tasks := []
  log := []

/-- Gives the promise that the caller gets. -/
def enqueueSubmit (q : Queue τ α) (task : τ) : PromiseName × Queue τ α :=
  let call := q.tasks.length
  (.run call,
    { promises := (q.promises.chain q.submitMutex (.attempt call)).chain (.run call) (.swallow call)
      submitMutex := .stored call
      tasks := q.tasks ++ [task]
      log := q.log })

def settle (q : Queue τ α) (p : PromiseName) (o : Outcome α) : Queue τ α :=
  { q with promises := q.promises.settle p o }

/-- `await task()` -/
def callTask (q : Queue τ α) (call : ℕ) (again : Bool) : Queue τ α :=
  { q with
    promises := q.promises.chain (.task call again) (if again then .second call else .first call)
    log := q.log ++ [.started call] }

def attempt (q : Queue τ α) (call : ℕ) : Queue τ α :=
  let called := q.callTask call false
  { called with promises := called.promises.chain (.attempt call) (.adopt call) }

/-- What a continuation does with the outcome of its promise. -/
def react (q : Queue τ α) : Reaction → Outcome α → Queue τ α
  | .attempt call, _ => q.attempt call
  | .first call, .ok value => q.settle (.attempt call) (.ok value)
  | .first call, .error error =>
    if isNonceError error then q.callTask call true else q.settle (.attempt call) (.error error)
  | .second call, o => q.settle (.attempt call) o
  | .adopt call, o => q.settle (.run call) o
  | .swallow call, .ok value => q.settle (.stored call) (.ok value)
  | .swallow call, .error _ => q.settle (.stored call) (.ok none)

def take (q : Queue τ α) (e : PromiseName × Reaction) : Queue τ α :=
  { q with promises := q.promises.take e }

/-- The task has been called, and its promise is pending. -/
def Running (q : Queue τ α) (call : ℕ) (again : Bool) : Prop :=
  (.task call again, if again then .second call else .first call) ∈ q.promises.reactions ∧
    q.promises.outcome (.task call again) = none

def endTask (q : Queue τ α) (call : ℕ) (again : Bool) (o : Outcome α) : Queue τ α :=
  { q.settle (.task call again) o with log := q.log ++ [.ended call o] }

end Queue

open Queue

inductive Step : Queue τ α → Queue τ α → Prop
  | enqueue {q} (task : τ) : Step q (q.enqueueSubmit task).2
  | react {q} {e : PromiseName × Reaction} {o} (h : q.promises.Ready e o) :
    Step q ((q.take e).react e.2 o)
  | endTask {q call again} (o : Outcome α) (h : q.Running call again) :
    Step q (q.endTask call again o)

def Reachable (q : Queue τ α) : Prop := Relation.ReflTransGen Step Queue.initial q

/-! ### Executable runs -/

inductive Move (τ α : Type) where
  | enqueue (task : τ)
  | react (e : PromiseName × Reaction)
  | endTask (call : ℕ) (again : Bool) (o : Outcome α)

instance (q : Queue τ α) (call : ℕ) (again : Bool) : Decidable (q.Running call again) := by
  unfold Queue.Running
  infer_instance

def Queue.apply (q : Queue τ α) : Move τ α → Option (Queue τ α)
  | .enqueue task => some (q.enqueueSubmit task).2
  | .react e =>
    if e ∈ q.promises.reactions then (q.promises.outcome e.1).map ((q.take e).react e.2) else none
  | .endTask call again o => if q.Running call again then some (q.endTask call again o) else none

def Queue.exec (q : Queue τ α) : List (Move τ α) → Option (Queue τ α)
  | [] => some q
  | m :: ms => (q.apply m).bind fun q' => q'.exec ms

theorem apply_step {q q' : Queue τ α} {m : Move τ α} (h : q.apply m = some q') : Step q q' := by
  cases m with
  | enqueue task =>
    obtain rfl : _ = q' := Option.some.inj h
    exact .enqueue task
  | react e =>
    simp only [Queue.apply, Option.ite_none_right_eq_some, Option.map_eq_some_iff] at h
    obtain ⟨hmem, o, hout, rfl⟩ := h
    exact .react ⟨hmem, hout⟩
  | endTask call again o =>
    simp only [Queue.apply, Option.ite_none_right_eq_some, Option.some.injEq] at h
    obtain ⟨hrunning, rfl⟩ := h
    exact .endTask o hrunning

theorem exec_reachable {q q' : Queue τ α} {ms : List (Move τ α)} (hq : Reachable q)
    (h : q.exec ms = some q') : Reachable q' := by
  induction ms generalizing q with
  | nil => exact Option.some.inj h ▸ hq
  | cons m ms ih =>
    obtain ⟨q₁, h₁, h⟩ := Option.bind_eq_some_iff.mp h
    exact ih (hq.tail (apply_step h₁)) h

end Sampraan.Blockchain.SubmitQueue
