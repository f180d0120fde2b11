import Sampraan.Blockchain.SubmitQueue
import Mathlib.Algebra.Order.BigOperators.Group.Finset

/-!
The submit queue serves its calls one after the other. Each call is in one of a
few phases, which fix its promises, its continuations and its part of the log;
a step takes one call from one phase to the next.
-/

namespace Sampraan.Blockchain.SubmitQueue

open Backend Library

variable {τ α : Type}

/-! ### What belongs to which call -/

def PromiseName.call : PromiseName → Option ℕ
  | .resolved => none
  | .task call _ => some call
  | .attempt call => some call
  | .run call => some call
  | .stored call => some call

def Reaction.call : Reaction → ℕ
  | .attempt call => call
  | .first call => call
  | .second call => call
  | .adopt call => call
  | .swallow call => call

/-- What `submitMutex` is set to before the call. -/
def previous : ℕ → PromiseName
  | 0 => .resolved
  | call + 1 => .stored call

abbrev QueuePromises (α : Type) := Promises PromiseName Reaction (Outcome α)

/-- The two lists of promises differ at most in what belongs to the call. -/
structure Touches (call : ℕ) (ps ps' : QueuePromises α) : Prop where
  outcome : ∀ p, p.call ≠ some call → ps'.outcome p = ps.outcome p
  reactions : ∀ e, e.2.call ≠ call → (e ∈ ps'.reactions ↔ e ∈ ps.reactions)

theorem Touches.trans {call : ℕ} {ps ps' ps'' : QueuePromises α} (h : Touches call ps ps')
    (h' : Touches call ps' ps'') : Touches call ps ps'' :=
  ⟨fun p hp => (h'.outcome p hp).trans (h.outcome p hp),
    fun e he => (h'.reactions e he).trans (h.reactions e he)⟩

theorem touches_take {call : ℕ} (ps : QueuePromises α) {e : PromiseName × Reaction}
    (he : e.2.call = call) : Touches call ps (ps.take e) := by
  refine ⟨fun p _ => rfl, fun e' he' => ?_⟩
  have hne : e' ≠ e := by
    rintro rfl
    exact he' he
  simp [hne]

theorem touches_chain {call : ℕ} (ps : QueuePromises α) (p : PromiseName) {r : Reaction}
    (hr : r.call = call) : Touches call ps (ps.chain p r) := by
  refine ⟨fun p _ => rfl, fun e he => ?_⟩
  have hne : e ≠ (p, r) := by
    rintro rfl
    exact he hr
  simp [hne]

theorem touches_settle {call : ℕ} (ps : QueuePromises α) {p : PromiseName} (o : Outcome α)
    (hp : p.call = some call) : Touches call ps (ps.settle p o) := by
  refine ⟨fun p' hp' => ?_, fun e _ => Iff.rfl⟩
  have hne : p' ≠ p := by
    rintro rfl
    exact hp' hp
  simp [hne]

theorem react_touches (q : Queue τ α) (r : Reaction) (o : Outcome α) :
    Touches r.call q.promises (q.react r o).promises := by
  cases r with
  | attempt call =>
    have hcall : Touches call q.promises (q.callTask call false).promises :=
      touches_chain q.promises (.task call false) (r := .first call) rfl
    exact hcall.trans (touches_chain _ (.attempt call) (r := .adopt call) rfl)
  | first call =>
    cases o with
    | ok value => exact touches_settle q.promises (p := .attempt call) (.ok value) rfl
    | error error =>
      simp only [Queue.react]
      split
      · exact touches_chain q.promises (.task call true) (r := .second call) rfl
      · exact touches_settle q.promises (p := .attempt call) (.error error) rfl
  | second call => exact touches_settle q.promises (p := .attempt call) o rfl
  | adopt call => exact touches_settle q.promises (p := .run call) o rfl
  | swallow call =>
    cases o with
    | ok value => exact touches_settle q.promises (p := .stored call) (.ok value) rfl
    | error error => exact touches_settle q.promises (p := .stored call) (.ok none) rfl

/-! ### Phases -/

/-- `failed` is the error of the first run, once the task is run again. -/
inductive Phase (α : Type) where
  | uncalled
  | waiting
  | running (failed : Option Thrown)
  | ended (failed : Option Thrown) (o : Outcome α)
  | attempted (failed : Option Thrown) (o : Outcome α)
  | returned (failed : Option Thrown) (o : Outcome α)
  | stored (failed : Option Thrown) (o : Outcome α)

namespace Phase

/-- The outcomes of the runs of the task, as far as they have ended. -/
def runs : Phase α → List (Outcome α)
  | uncalled | waiting => []
  | running failed => failed.toList.map .error
  | ended failed o | attempted failed o | returned failed o | stored failed o =>
    failed.toList.map .error ++ [o]

def attemptOutcome : Phase α → Option (Outcome α)
  | attempted _ o | returned _ o | stored _ o => some o
  | _ => none

def runOutcome : Phase α → Option (Outcome α)
  | returned _ o | stored _ o => some o
  | _ => none

def swallowed : Outcome α → Outcome α
  | .ok value => .ok value
  | .error _ => .ok none

def storedOutcome : Phase α → Option (Outcome α)
  | stored _ o => some (swallowed o)
  | _ => none

def outcome (φ : Phase α) : PromiseName → Option (Outcome α)
  | .resolved => none
  | .task _ again => if again then φ.runs[1]? else φ.runs[0]?
  | .attempt _ => φ.attemptOutcome
  | .run _ => φ.runOutcome
  | .stored _ => φ.storedOutcome

/-- The continuation after the run of the task. -/
def awaiting (call : ℕ) (failed : Option Thrown) : PromiseName × Reaction :=
  (.task call failed.isSome, if failed.isSome then .second call else .first call)

def reactions (call : ℕ) : Phase α → List (PromiseName × Reaction)
  | uncalled => []
  | waiting => [(previous call, .attempt call), (.run call, .swallow call)]
  | running failed | ended failed _ =>
    [awaiting call failed, (.attempt call, .adopt call), (.run call, .swallow call)]
  | attempted _ _ => [(.attempt call, .adopt call), (.run call, .swallow call)]
  | returned _ _ => [(.run call, .swallow call)]
  | stored _ _ => []

def events (call : ℕ) : Phase α → List (Event α)
  | uncalled | waiting => []
  | running failed =>
    failed.toList.flatMap (fun e => [.started call, .ended call (.error e)]) ++ [.started call]
  | ended failed o | attempted failed o | returned failed o | stored failed o =>
    failed.toList.flatMap (fun e => [.started call, .ended call (.error e)]) ++
      [.started call, .ended call o]

end Phase

/-- The error makes the queue run the task again. -/
def Retried : Outcome α → Prop
  | .ok _ => False
  | .error e => isNonceError e = true

/-- The steps of one call. -/
inductive Advances : Phase α → Phase α → Prop
  | call : Advances .uncalled .waiting
  | start : Advances .waiting (.running none)
  | finish (failed : Option Thrown) (o : Outcome α) : Advances (.running failed) (.ended failed o)
  | retry {e : Thrown} (he : isNonceError e = true) :
    Advances (.ended none (.error e)) (.running (some e))
  | attempt {failed : Option Thrown} {o : Outcome α} (h : failed = none → ¬ Retried o) :
    Advances (.ended failed o) (.attempted failed o)
  | adopt (failed : Option Thrown) (o : Outcome α) : Advances (.attempted failed o) (.returned failed o)
  | swallow (failed : Option Thrown) (o : Outcome α) : Advances (.returned failed o) (.stored failed o)

/-- The call is in the phase. -/
structure Link (ps : QueuePromises α) (call : ℕ) (φ : Phase α) : Prop where
  outcome : ∀ p, p.call = some call → ps.outcome p = φ.outcome p
  reactions : ∀ e, e.2.call = call → (e ∈ ps.reactions ↔ e ∈ φ.reactions call)

theorem Link.of_touches {ps ps' : QueuePromises α} {call call' : ℕ} {φ : Phase α}
    (h : Link ps call φ) (ht : Touches call' ps ps') (hne : call ≠ call') : Link ps' call φ where
  outcome p hp := by
    rw [← h.outcome p hp]
    apply ht.outcome
    simpa [hp] using hne
  reactions e he := by
    rw [← h.reactions e he]
    exact ht.reactions e (he ▸ hne)

/-! ### A step takes one call on -/

/-- The step does this to a call and to the log. -/
structure Takes (q q' : Queue τ α) (call : ℕ) (φ φ' : Phase α) : Prop where
  advances : Advances φ φ'
  link : Link q'.promises call φ'
  log : ∃ events, q'.log = q.log ++ events ∧ φ'.events call = φ.events call ++ events

/-- A continuation leaves the list and settles a promise of its call. -/
theorem Link.take_settle {ps : QueuePromises α} {call : ℕ} {φ φ' : Phase α}
    (h : Link ps call φ) {e : PromiseName × Reaction} {p : PromiseName} {o : Outcome α}
    (hout : ∀ p', p'.call = some call → φ'.outcome p' = if p' = p then some o else φ.outcome p')
    (hre : ∀ e', e'.2.call = call →
      (e' ∈ φ'.reactions call ↔ e' ≠ e ∧ e' ∈ φ.reactions call)) :
    Link ((ps.take e).settle p o) call φ' where
  outcome p' hp' := by
    rw [Promises.settle_outcome, Promises.take_outcome, h.outcome p' hp', hout p' hp']
  reactions e' he' := by
    rw [Promises.settle_reactions, Promises.mem_take, h.reactions e' he', hre e' he']

theorem start_takes {q : Queue τ α} {call : ℕ} (h : Link q.promises call .waiting) (o : Outcome α) :
    Takes q ((q.take (previous call, .attempt call)).react (.attempt call) o) call .waiting
      (.running none) where
  advances := .start
  link := by
    constructor
    · intro p hp
      have hold := h.outcome p hp
      cases p <;> simp_all [Queue.react, Queue.attempt, Queue.callTask, Queue.take, Phase.outcome,
        Phase.runs, Phase.attemptOutcome, Phase.runOutcome, Phase.storedOutcome]
    · intro e he
      have hold := h.reactions e he
      simp only [Queue.react, Queue.attempt, Queue.callTask, Queue.take, Promises.mem_chain,
        Promises.mem_take, hold, Phase.reactions, Phase.awaiting]
      simp
      grind
  log := ⟨[.started call], rfl, rfl⟩

theorem finish_takes {q : Queue τ α} {call : ℕ} {failed : Option Thrown}
    (h : Link q.promises call (.running failed)) (o : Outcome α) :
    Takes q (q.endTask call failed.isSome o) call (.running failed) (.ended failed o) where
  advances := .finish failed o
  link := by
    constructor
    · intro p hp
      have hold := h.outcome p hp
      simp only [Queue.endTask, Queue.settle, Promises.settle_outcome, hold]
      cases failed with
      | none =>
        cases p with
        | task call' again =>
          obtain rfl : call' = call := by simpa [PromiseName.call] using hp
          cases again <;> simp [Phase.outcome, Phase.runs]
        | _ => rfl
      | some e =>
        cases p with
        | task call' again =>
          obtain rfl : call' = call := by simpa [PromiseName.call] using hp
          cases again <;> simp [Phase.outcome, Phase.runs]
        | _ => rfl
    · exact h.reactions
  log := by
    refine ⟨[.ended call o], rfl, ?_⟩
    cases failed <;> rfl

theorem retry_takes {q : Queue τ α} {call : ℕ} {e : Thrown} (he : isNonceError e = true)
    (h : Link q.promises call (.ended none (.error e))) :
    Takes q ((q.take (.task call false, .first call)).react (.first call) (.error e)) call
      (.ended none (.error e)) (.running (some e)) where
  advances := .retry he
  link := by
    simp only [Queue.react, he, if_true]
    constructor
    · intro p hp
      have hold := h.outcome p hp
      simp only [Queue.callTask, Queue.take, Promises.chain_outcome, Promises.take_outcome, hold]
      cases p <;> rfl
    · intro e' he'
      have hold := h.reactions e' he'
      simp only [Queue.callTask, Queue.take, Promises.mem_chain,
        Promises.mem_take, hold, Phase.reactions, Phase.awaiting]
      simp
      grind
  log := by
    refine ⟨[.started call], ?_, rfl⟩
    simp [Queue.react, he, Queue.callTask, Queue.take]

theorem attempt_takes {q : Queue τ α} {call : ℕ} {failed : Option Thrown} {o : Outcome α}
    (ho : failed = none → ¬ Retried o) (h : Link q.promises call (.ended failed o)) :
    Takes q ((q.take (Phase.awaiting call failed)).react (Phase.awaiting call failed).2 o) call
      (.ended failed o) (.attempted failed o) := by
  have hreact : (q.take (Phase.awaiting call failed)).react (Phase.awaiting call failed).2 o =
      (q.take (Phase.awaiting call failed)).settle (.attempt call) o := by
    cases failed with
    | some e => rfl
    | none =>
      cases o with
      | ok value => rfl
      | error error =>
        have herror : ¬ isNonceError error = true := ho rfl
        simp [Phase.awaiting, Queue.react, herror]
  rw [hreact]
  refine ⟨.attempt ho, ?_, [], by simp [Queue.settle, Queue.take], by simp [Phase.events]⟩
  apply h.take_settle
  · intro p hp
    cases p with
    | attempt call' =>
      obtain rfl : call' = call := by simpa [PromiseName.call] using hp
      simp [Phase.outcome, Phase.attemptOutcome]
    | _ => simp [Phase.outcome, Phase.runs, Phase.runOutcome, Phase.storedOutcome]
  · intro e he
    simp only [Phase.reactions, Phase.awaiting]
    simp
    grind

theorem adopt_takes {q : Queue τ α} {call : ℕ} {failed : Option Thrown} {o : Outcome α}
    (h : Link q.promises call (.attempted failed o)) :
    Takes q ((q.take (.attempt call, .adopt call)).react (.adopt call) o) call
      (.attempted failed o) (.returned failed o) := by
  refine ⟨.adopt failed o, ?_, [], by simp [Queue.react, Queue.settle, Queue.take],
    by simp [Phase.events]⟩
  apply h.take_settle
  · intro p hp
    cases p with
    | run call' =>
      obtain rfl : call' = call := by simpa [PromiseName.call] using hp
      simp [Phase.outcome, Phase.runOutcome]
    | _ => simp [Phase.outcome, Phase.runs, Phase.attemptOutcome, Phase.storedOutcome]
  · intro e he
    simp only [Phase.reactions]
    simp
    grind

theorem swallow_takes {q : Queue τ α} {call : ℕ} {failed : Option Thrown} {o : Outcome α}
    (h : Link q.promises call (.returned failed o)) :
    Takes q ((q.take (.run call, .swallow call)).react (.swallow call) o) call
      (.returned failed o) (.stored failed o) := by
  have hreact : (q.take (.run call, .swallow call)).react (.swallow call) o =
      (q.take (.run call, .swallow call)).settle (.stored call) (Phase.swallowed o) := by
    cases o <;> rfl
  rw [hreact]
  refine ⟨.swallow failed o, ?_, [], by simp [Queue.settle, Queue.take], by simp [Phase.events]⟩
  apply h.take_settle
  · intro p hp
    cases p with
    | stored call' =>
      obtain rfl : call' = call := by simpa [PromiseName.call] using hp
      simp [Phase.outcome, Phase.storedOutcome]
    | _ => simp [Phase.outcome, Phase.runs, Phase.attemptOutcome, Phase.runOutcome]
  · intro e he
    simp [Phase.reactions]

/-- A continuation of the phase whose promise the phase says has settled. -/
def Phase.Fires (call : ℕ) (φ : Phase α) (e : PromiseName × Reaction) (o : Outcome α) : Prop :=
  match φ with
  | .uncalled | .running _ | .stored _ _ => False
  | .waiting => e = (previous call, .attempt call)
  | .ended failed o' => e = Phase.awaiting call failed ∧ o = o'
  | .attempted _ o' => e = (.attempt call, .adopt call) ∧ o = o'
  | .returned _ o' => e = (.run call, .swallow call) ∧ o = o'

theorem Link.fires {ps : QueuePromises α} {call : ℕ} {φ : Phase α} (h : Link ps call φ)
    {e : PromiseName × Reaction} {o : Outcome α} (he : e.2.call = call) (hr : ps.Ready e o) :
    φ.Fires call e o := by
  obtain ⟨hmem, hout⟩ := hr
  have hreaction := (h.reactions e he).mp hmem
  have hown : e.1.call = some call → φ.outcome e.1 = some o := fun hp => h.outcome e.1 hp ▸ hout
  cases φ with
  | uncalled => simp [Phase.reactions] at hreaction
  | stored failed o' => simp [Phase.reactions] at hreaction
  | waiting =>
    simp only [Phase.reactions, List.mem_cons, List.not_mem_nil, or_false] at hreaction
    obtain rfl | rfl := hreaction
    · rfl
    · simp [PromiseName.call, Phase.outcome, Phase.runOutcome] at hown
  | running failed =>
    simp only [Phase.reactions, List.mem_cons, List.not_mem_nil, or_false] at hreaction
    obtain rfl | rfl | rfl := hreaction
    · cases failed <;> simp [Phase.awaiting, PromiseName.call, Phase.outcome, Phase.runs] at hown
    · simp [PromiseName.call, Phase.outcome, Phase.attemptOutcome] at hown
    · simp [PromiseName.call, Phase.outcome, Phase.runOutcome] at hown
  | ended failed o' =>
    simp only [Phase.reactions, List.mem_cons, List.not_mem_nil, or_false] at hreaction
    obtain rfl | rfl | rfl := hreaction
    · refine ⟨rfl, ?_⟩
      cases failed <;> simpa [Phase.awaiting, PromiseName.call, Phase.outcome, Phase.runs, eq_comm]
        using hown
    · simp [PromiseName.call, Phase.outcome, Phase.attemptOutcome] at hown
    · simp [PromiseName.call, Phase.outcome, Phase.runOutcome] at hown
  | attempted failed o' =>
    simp only [Phase.reactions, List.mem_cons, List.not_mem_nil, or_false] at hreaction
    obtain rfl | rfl := hreaction
    · exact ⟨rfl, by simpa [PromiseName.call, Phase.outcome, Phase.attemptOutcome, eq_comm] using hown⟩
    · simp [PromiseName.call, Phase.outcome, Phase.runOutcome] at hown
  | returned failed o' =>
    simp only [Phase.reactions, List.mem_cons, List.not_mem_nil, or_false] at hreaction
    subst hreaction
    exact ⟨rfl, by simpa [PromiseName.call, Phase.outcome, Phase.runOutcome, eq_comm] using hown⟩

/-- Whichever continuation of a call runs, it takes the call on. -/
theorem react_takes {q : Queue τ α} {e : PromiseName × Reaction} {o : Outcome α} {φ : Phase α}
    (h : Link q.promises e.2.call φ) (hr : q.promises.Ready e o) :
    ∃ φ', Takes q ((q.take e).react e.2 o) e.2.call φ φ' := by
  have hfires := h.fires rfl hr
  generalize hcall : e.2.call = call at h hfires ⊢
  cases φ with
  | uncalled => exact hfires.elim
  | running failed => exact hfires.elim
  | stored failed o' => exact hfires.elim
  | waiting =>
    obtain rfl : e = _ := hfires
    exact ⟨_, start_takes h o⟩
  | ended failed o' =>
    obtain ⟨rfl, rfl⟩ := hfires
    by_cases hretry : failed = none ∧ Retried o
    · obtain ⟨rfl, hretried⟩ := hretry
      cases o with
      | ok value => exact hretried.elim
      | error error => exact ⟨_, retry_takes hretried h⟩
    · exact ⟨_, attempt_takes (fun hnone hretried => hretry ⟨hnone, hretried⟩) h⟩
  | attempted failed o' =>
    obtain ⟨rfl, rfl⟩ := hfires
    exact ⟨_, adopt_takes h⟩
  | returned failed o' =>
    obtain ⟨rfl, rfl⟩ := hfires
    exact ⟨_, swallow_takes h⟩

/-! ### The whole queue -/

/-- Every run again has its reason, and no outcome that asks for one is final. -/
def Phase.Sound : Phase α → Prop
  | .uncalled | .waiting => True
  | .running failed | .ended failed _ => ∀ e ∈ failed, isNonceError e = true
  | .attempted failed o | .returned failed o | .stored failed o =>
    (∀ e ∈ failed, isNonceError e = true) ∧ (failed = none → ¬ Retried o)

theorem Advances.sound {φ φ' : Phase α} (h : Advances φ φ') (hs : φ.Sound) : φ'.Sound := by
  cases h with
  | call => trivial
  | start => exact fun e he => nomatch he
  | finish failed o => exact hs
  | retry he =>
    intro e' he'
    obtain rfl : _ = e' := Option.some.inj he'
    exact he
  | attempt h => exact ⟨hs, h⟩
  | adopt failed o => exact hs
  | swallow failed o => exact hs

theorem Advances.ne_uncalled {φ φ' : Phase α} (h : Advances φ φ') : φ' ≠ .uncalled := by
  cases h <;> simp

/-- The calls before the current one are done, and those after it wait. -/
structure Serves (q : Queue τ α) (φ : ℕ → Phase α) (current : ℕ) : Prop where
  links : ∀ call, Link q.promises call (φ call)
  resolved : q.promises.outcome .resolved = some (.ok none)
  mutex : q.submitMutex = previous q.tasks.length
  sound : ∀ call, (φ call).Sound
  le : current ≤ q.tasks.length
  before : ∀ call < current, ∃ failed o, φ call = .stored failed o
  now : ∀ failed o, φ current ≠ .stored failed o
  after : ∀ call, current < call → call < q.tasks.length → φ call = .waiting
  called : current < q.tasks.length → φ current ≠ .uncalled
  uncalled : ∀ call, q.tasks.length ≤ call → φ call = .uncalled
  log : q.log = (List.range q.tasks.length).flatMap fun call => (φ call).events call

theorem serves_initial : Serves (Queue.initial : Queue τ α) (fun _ => .uncalled) 0 where
  links call := by
    constructor
    · intro p hp
      cases p <;> simp_all [Queue.initial, PromiseName.call, Phase.outcome, Phase.runs,
        Phase.attemptOutcome, Phase.runOutcome, Phase.storedOutcome]
    · simp [Queue.initial, Phase.reactions]
  resolved := rfl
  mutex := rfl
  sound _ := trivial
  le := Nat.le_refl _
  before := by simp
  now := by simp
  after := by simp [Queue.initial]
  called := by simp [Queue.initial]
  uncalled := by simp
  log := rfl

theorem flatMap_range_update {β : Type} {f g : ℕ → List β} {call : ℕ} {added : List β} (n : ℕ)
    (hlt : call < n) (hcall : g call = f call ++ added) (hsame : ∀ i, i ≠ call → g i = f i)
    (hlater : ∀ i, call < i → i < n → f i = []) :
    (List.range n).flatMap g = (List.range n).flatMap f ++ added := by
  induction n with
  | zero => omega
  | succ n ih =>
    rw [List.range_succ, List.flatMap_append, List.flatMap_append, List.flatMap_singleton,
      List.flatMap_singleton]
    by_cases hn : call = n
    · subst hn
      have hbefore : (List.range call).flatMap g = (List.range call).flatMap f := by
        apply List.flatMap_congr
        intro i hi
        have hi' := List.mem_range.mp hi
        exact hsame i (by omega)
      rw [hbefore, hcall, List.append_assoc]
    · have hnil : f n = [] := hlater n (by omega) (by omega)
      rw [hsame n (Ne.symm hn), hnil, ih (by omega) fun i hi hin => hlater i hi (by omega)]
      simp

/-- The current call goes on. -/
theorem Serves.takes {q q' : Queue τ α} {φ : ℕ → Phase α} {current : ℕ} (h : Serves q φ current)
    (hcurrent : current < q.tasks.length) {ψ : Phase α}
    (ht : Takes q q' current (φ current) ψ) (htouches : Touches current q.promises q'.promises)
    (htasks : q'.tasks = q.tasks) (hmutex : q'.submitMutex = q.submitMutex) :
    ∃ current', Serves q' (Function.update φ current ψ) current' := by
  have hother : ∀ call, call ≠ current → Function.update φ current ψ call = φ call := fun call hne =>
    Function.update_of_ne hne ..
  have hself : Function.update φ current ψ current = ψ := Function.update_self ..
  have hcommon : ∀ current', current' ≤ q'.tasks.length →
      (∀ call < current', ∃ failed o, Function.update φ current ψ call = .stored failed o) →
      (∀ failed o, Function.update φ current ψ current' ≠ .stored failed o) →
      (∀ call, current' < call → call < q'.tasks.length → Function.update φ current ψ call = .waiting) →
      (current' < q'.tasks.length → Function.update φ current ψ current' ≠ .uncalled) →
      Serves q' (Function.update φ current ψ) current' := by
    intro current' hle hbefore hnow hafter hcalled
    refine ⟨fun call => ?_, ?_, ?_, fun call => ?_, hle, hbefore, hnow, hafter, hcalled,
      fun call hcall => ?_, ?_⟩
    · by_cases hc : call = current
      · subst hc
        rw [hself]
        exact ht.link
      · rw [hother call hc]
        exact (h.links call).of_touches htouches hc
    · rw [htouches.outcome .resolved (by simp [PromiseName.call])]
      exact h.resolved
    · rw [hmutex, htasks]
      exact h.mutex
    · by_cases hc : call = current
      · subst hc
        rw [hself]
        exact ht.advances.sound (h.sound call)
      · rw [hother call hc]
        exact h.sound call
    · rw [htasks] at hcall
      rw [hother call (by omega)]
      exact h.uncalled call hcall
    · obtain ⟨events, hlog, hevents⟩ := ht.log
      rw [hlog, htasks, h.log]
      symm
      apply flatMap_range_update _ hcurrent
      · simpa [hself] using hevents
      · intro i hi
        rw [hother i hi]
      · intro i hi hin
        rw [h.after i hi hin]
        rfl
  by_cases hstored : ∃ failed o, ψ = .stored failed o
  · have hnext : ∀ call, current < call → call < q.tasks.length →
        Function.update φ current ψ call = .waiting := fun call hlt hcall => by
      rw [hother call (by omega), h.after call hlt hcall]
    refine ⟨current + 1, hcommon _ (by rw [htasks]; omega) (fun call hcall => ?_) (fun failed o => ?_)
      (fun call hlt hcall => hnext call (by omega) (htasks ▸ hcall)) fun hlt => ?_⟩
    · by_cases hc : call = current
      · subst hc
        rw [hself]
        exact hstored
      · rw [hother call hc]
        exact h.before call (by omega)
    · by_cases hlt : current + 1 < q.tasks.length
      · rw [hnext _ (by omega) hlt]
        simp
      · rw [hother _ (by omega), h.uncalled _ (by omega)]
        simp
    · rw [hnext _ (by omega) (htasks ▸ hlt)]
      simp
  · refine ⟨current, hcommon _ (by rw [htasks]; omega) (fun call hcall => ?_) (fun failed o => ?_)
      (fun call hlt hcall => ?_) fun _ => ?_⟩
    · rw [hother call (by omega)]
      exact h.before call hcall
    · rw [hself]
      rintro rfl
      exact hstored ⟨_, _, rfl⟩
    · rw [hother call (by omega)]
      exact h.after call hlt (htasks ▸ hcall)
    · rw [hself]
      exact ht.advances.ne_uncalled


theorem Serves.enqueue {q : Queue τ α} {φ : ℕ → Phase α} {current : ℕ} (h : Serves q φ current)
    (task : τ) : Serves (q.enqueueSubmit task).2 (Function.update φ q.tasks.length .waiting) current := by
  have hnew : φ q.tasks.length = .uncalled := h.uncalled _ (Nat.le_refl _)
  have hother : ∀ call, call ≠ q.tasks.length →
      Function.update φ q.tasks.length .waiting call = φ call := fun call hne =>
    Function.update_of_ne hne ..
  have hself : Function.update φ q.tasks.length .waiting q.tasks.length = .waiting :=
    Function.update_self ..
  have hlength : (q.enqueueSubmit task).2.tasks.length = q.tasks.length + 1 := by
    simp [Queue.enqueueSubmit]
  have htouches : Touches q.tasks.length q.promises (q.enqueueSubmit task).2.promises :=
    (touches_chain q.promises q.submitMutex (r := .attempt _) rfl).trans
      (touches_chain _ (.run _) (r := .swallow _) rfl)
  refine ⟨fun call => ?_, h.resolved, ?_, fun call => ?_, ?_, fun call hcall => ?_, fun failed o => ?_,
    fun call hlt hcall => ?_, fun _ => ?_, fun call hcall => ?_, ?_⟩
  · by_cases hc : call = q.tasks.length
    · subst hc
      rw [hself]
      have hlink := h.links q.tasks.length
      rw [hnew] at hlink
      constructor
      · intro p hp
        have hold := hlink.outcome p hp
        simp only [Queue.enqueueSubmit, Promises.chain_outcome, hold]
        cases p <;> rfl
      · intro e he
        have hold := hlink.reactions e he
        simp only [Queue.enqueueSubmit, Promises.mem_chain, hold, h.mutex, Phase.reactions]
        simp [or_comm]
    · rw [hother call hc]
      exact (h.links call).of_touches htouches hc
  · rw [hlength]
    rfl
  · by_cases hc : call = q.tasks.length
    · subst hc
      rw [hself]
      trivial
    · rw [hother call hc]
      exact h.sound call
  · have := h.le
    omega
  · have := h.le
    rw [hother call (by omega)]
    exact h.before call hcall
  · by_cases hc : current = q.tasks.length
    · rw [hc, hself]
      simp
    · rw [hother current hc]
      exact h.now failed o
  · by_cases hc : call = q.tasks.length
    · rw [hc, hself]
    · rw [hother call hc]
      exact h.after call hlt (by omega)
  · by_cases hc : current = q.tasks.length
    · rw [hc, hself]
      simp
    · rw [hother current hc]
      have := h.le
      exact h.called (by omega)
  · rw [hother call (by omega)]
    exact h.uncalled call (by omega)
  · rw [hlength, List.range_succ, List.flatMap_append, List.flatMap_singleton, hself]
    have hsame : (List.range q.tasks.length).flatMap (fun call =>
        (Function.update φ q.tasks.length .waiting call).events call) =
          (List.range q.tasks.length).flatMap fun call => (φ call).events call := by
      apply List.flatMap_congr
      intro call hcall
      have hlt := List.mem_range.mp hcall
      rw [hother call (by omega)]
    rw [hsame]
    exact h.log.trans (List.append_nil _).symm

/-- A call that a continuation takes on is the current one. -/
theorem Serves.current_of_fires {q : Queue τ α} {φ : ℕ → Phase α} {current : ℕ}
    (h : Serves q φ current) {e : PromiseName × Reaction} {o : Outcome α}
    (hr : q.promises.Ready e o) : e.2.call = current ∧ current < q.tasks.length := by
  have hfires := (h.links e.2.call).fires rfl hr
  have hlt : e.2.call < q.tasks.length := by
    by_contra hge
    rw [h.uncalled _ (by omega)] at hfires
    exact hfires
  obtain hbefore | heq | hafter := Nat.lt_trichotomy e.2.call current
  · obtain ⟨failed, o', hstored⟩ := h.before _ hbefore
    rw [hstored] at hfires
    exact hfires.elim
  · exact ⟨heq, heq ▸ hlt⟩
  · rw [h.after _ hafter hlt] at hfires
    obtain ⟨call, hcall⟩ : ∃ call, e.2.call = call + 1 := ⟨e.2.call - 1, by omega⟩
    have hout : (φ call).outcome (.stored call) = some o := by
      rw [← (h.links call).outcome _ rfl, ← hr.2, show e = _ from hfires, hcall]
      rfl
    obtain rfl | hlater : call = current ∨ current < call := by omega
    · cases hphase : φ call with
      | stored failed o' => exact absurd hphase (h.now failed o')
      | _ => simp [hphase, Phase.outcome, Phase.storedOutcome] at hout
    · rw [h.after call hlater (by omega)] at hout
      simp [Phase.outcome, Phase.storedOutcome] at hout

theorem react_tasks (q : Queue τ α) (r : Reaction) (o : Outcome α) :
    (q.react r o).tasks = q.tasks ∧ (q.react r o).submitMutex = q.submitMutex := by
  cases r with
  | first call =>
    cases o with
    | ok value => exact ⟨rfl, rfl⟩
    | error error =>
      simp only [Queue.react]
      split <;> exact ⟨rfl, rfl⟩
  | swallow call => cases o <;> exact ⟨rfl, rfl⟩
  | _ => exact ⟨rfl, rfl⟩

/-- A task that runs is the current call's. -/
theorem Serves.running {q : Queue τ α} {φ : ℕ → Phase α} {current : ℕ} (h : Serves q φ current)
    {call : ℕ} {again : Bool} (hr : q.Running call again) :
    call = current ∧ current < q.tasks.length ∧
      ∃ failed, φ current = .running failed ∧ again = failed.isSome := by
  obtain ⟨hmem, hout⟩ := hr
  have hreaction : (PromiseName.task call again, if again then Reaction.second call else .first call) ∈
      (φ call).reactions call := by
    rw [← (h.links call).reactions _ (by cases again <;> rfl)]
    exact hmem
  have hpending : (φ call).outcome (.task call again) = none := by
    rw [← (h.links call).outcome _ rfl]
    exact hout
  have hphase : ∃ failed, φ call = .running failed ∧ again = failed.isSome := by
    cases hφ : φ call with
    | running failed =>
      refine ⟨failed, rfl, ?_⟩
      cases failed <;> simpa [hφ, Phase.reactions, Phase.awaiting] using hreaction
    | ended failed o =>
      cases failed <;> cases again <;>
        simp [hφ, Phase.reactions, Phase.awaiting, Phase.outcome, Phase.runs] at hreaction hpending
    | waiting =>
      have hprevious : previous call ≠ .task call again := by cases call <;> simp [previous]
      simp [hφ, Phase.reactions, Ne.symm hprevious] at hreaction
    | _ => simp [hφ, Phase.reactions] at hreaction
  obtain ⟨failed, hφ, hagain⟩ := hphase
  have hlt : call < q.tasks.length := by
    by_contra hge
    rw [h.uncalled _ (by omega)] at hφ
    cases hφ
  obtain hbefore | rfl | hafter := Nat.lt_trichotomy call current
  · obtain ⟨failed', o, hstored⟩ := h.before _ hbefore
    rw [hstored] at hφ
    cases hφ
  · exact ⟨rfl, hlt, failed, hφ, hagain⟩
  · rw [h.after _ hafter hlt] at hφ
    cases hφ

/-- A step enqueues a call or takes the current one on. -/
theorem Serves.step {q q' : Queue τ α} {φ : ℕ → Phase α} {current : ℕ} (h : Serves q φ current)
    (hs : Step q q') :
    (∃ task, q' = (q.enqueueSubmit task).2) ∨ current < q.tasks.length ∧ q'.tasks = q.tasks ∧
      ∃ ψ current', Advances (φ current) ψ ∧ Serves q' (Function.update φ current ψ) current' := by
  cases hs with
  | enqueue task => exact .inl ⟨task, rfl⟩
  | @react e o hr =>
    obtain ⟨hcall, hlt⟩ := h.current_of_fires hr
    obtain ⟨ψ, ht⟩ := react_takes (h.links e.2.call) hr
    have htouches : Touches e.2.call q.promises ((q.take e).react e.2 o).promises :=
      (touches_take q.promises rfl).trans (react_touches (q.take e) e.2 o)
    obtain ⟨htasks, hmutex⟩ := react_tasks (q.take e) e.2 o
    rw [hcall] at ht htouches
    obtain ⟨current', hserves⟩ := h.takes hlt ht htouches htasks hmutex
    exact .inr ⟨hlt, htasks, ψ, current', ht.advances, hserves⟩
  | @endTask call again o hr =>
    obtain ⟨rfl, hlt, failed, hphase, rfl⟩ := h.running hr
    have hlink := h.links call
    rw [hphase] at hlink
    have ht := finish_takes hlink o
    rw [← hphase] at ht
    obtain ⟨current', hserves⟩ := h.takes hlt ht (touches_settle _ _ rfl) rfl rfl
    exact .inr ⟨hlt, rfl, _, current', ht.advances, hserves⟩

theorem Reachable.serves {q : Queue τ α} (hq : Reachable q) : ∃ φ current, Serves q φ current := by
  induction hq with
  | refl => exact ⟨_, _, serves_initial⟩
  | tail _ hs ih =>
    obtain ⟨φ, current, h⟩ := ih
    obtain ⟨task, rfl⟩ | ⟨-, -, ψ, current', -, hserves⟩ := h.step hs
    · exact ⟨_, _, h.enqueue task⟩
    · exact ⟨_, _, hserves⟩

/-- As long as a call is not done, something other than a new call can happen. -/
theorem Serves.progress {q : Queue τ α} {φ : ℕ → Phase α} {current : ℕ} (h : Serves q φ current)
    (hlt : current < q.tasks.length) : ∃ q', Step q q' ∧ q'.tasks = q.tasks := by
  have hlink := h.links current
  have hreact : ∀ e o, e.2.call = current → e ∈ (φ current).reactions current →
      q.promises.outcome e.1 = some o → ∃ q', Step q q' ∧ q'.tasks = q.tasks := by
    intro e o he hmem hout
    exact ⟨_, .react ⟨(hlink.reactions e he).mpr hmem, hout⟩, (react_tasks _ _ _).1⟩
  cases hφ : φ current with
  | uncalled => exact absurd hφ (h.called hlt)
  | stored failed o => exact absurd hφ (h.now failed o)
  | waiting =>
    obtain ⟨o, hout⟩ : ∃ o, q.promises.outcome (previous current) = some o := by
      cases current with
      | zero => exact ⟨_, h.resolved⟩
      | succ call =>
        obtain ⟨failed, o, hstored⟩ := h.before call (by omega)
        refine ⟨Phase.swallowed o, ?_⟩
        rw [previous, (h.links call).outcome _ rfl, hstored]
        rfl
    exact hreact (previous current, .attempt current) o rfl (by simp [hφ, Phase.reactions]) hout
  | running failed =>
    rw [hφ] at hlink
    refine ⟨_, @Step.endTask _ _ _ current failed.isSome (.ok none) ⟨?_, ?_⟩, rfl⟩
    · rw [hlink.reactions _ (by cases failed <;> rfl)]
      simp [Phase.reactions, Phase.awaiting]
    · rw [hlink.outcome _ rfl]
      cases failed <;> rfl
  | ended failed o =>
    apply hreact (Phase.awaiting current failed) o
    · cases failed <;> rfl
    · simp [hφ, Phase.reactions]
    · rw [hlink.outcome _ rfl, hφ]
      cases failed <;> rfl
  | attempted failed o =>
    apply hreact (.attempt current, .adopt current) o rfl
    · simp [hφ, Phase.reactions]
    · rw [hlink.outcome _ rfl, hφ]
      rfl
  | returned failed o =>
    apply hreact (.run current, .swallow current) o rfl
    · simp [hφ, Phase.reactions]
    · rw [hlink.outcome _ rfl, hφ]
      rfl

/-! ### Runs of a task -/

/-- The task has been called, the first or the second time. -/
def Started (q : Queue τ α) (call : ℕ) (again : Bool) : Prop :=
  (.task call again, if again then .second call else .first call) ∈ q.promises.reactions ∨
    (q.promises.outcome (.task call again)).isSome

/-- A task is run again after its first run has been rejected with a nonce error. -/
theorem Reachable.retried {q : Queue τ α} (hq : Reachable q) {call : ℕ} (h : Started q call true) :
    ∃ e, q.promises.outcome (.task call false) = some (.error e) ∧ isNonceError e = true := by
  obtain ⟨φ, current, hserves⟩ := hq.serves
  have hlink := hserves.links call
  have hsound := hserves.sound call
  have hprevious : previous call ≠ .task call true := by cases call <;> simp [previous]
  rw [Started, hlink.outcome _ rfl, hlink.reactions _ rfl] at h
  have hfailed : ∃ e, (φ call).runs[0]? = some (.error e) ∧ isNonceError e = true := by
    cases hφ : φ call with
    | uncalled => simp [hφ, Phase.reactions, Phase.outcome, Phase.runs] at h
    | waiting =>
      simp [hφ, Phase.reactions, Phase.outcome, Phase.runs, Ne.symm hprevious] at h
    | running failed =>
      rw [hφ] at hsound
      cases failed with
      | none => simp [hφ, Phase.reactions, Phase.awaiting, Phase.outcome, Phase.runs] at h
      | some e => exact ⟨e, rfl, hsound e rfl⟩
    | ended failed o =>
      rw [hφ] at hsound
      cases failed with
      | none => simp [hφ, Phase.reactions, Phase.awaiting, Phase.outcome, Phase.runs] at h
      | some e => exact ⟨e, rfl, hsound e rfl⟩
    | attempted failed o =>
      rw [hφ] at hsound
      cases failed with
      | none => simp [hφ, Phase.reactions, Phase.outcome, Phase.runs] at h
      | some e => exact ⟨e, rfl, hsound.1 e rfl⟩
    | returned failed o =>
      rw [hφ] at hsound
      cases failed with
      | none => simp [hφ, Phase.reactions, Phase.outcome, Phase.runs] at h
      | some e => exact ⟨e, rfl, hsound.1 e rfl⟩
    | stored failed o =>
      rw [hφ] at hsound
      cases failed with
      | none => simp [hφ, Phase.reactions, Phase.outcome, Phase.runs] at h
      | some e => exact ⟨e, rfl, hsound.1 e rfl⟩
  obtain ⟨e, hrun, hnonce⟩ := hfailed
  refine ⟨e, ?_, hnonce⟩
  rw [hlink.outcome _ rfl]
  exact hrun

theorem react_outcome (q : Queue τ α) (r : Reaction) (o : Outcome α) (call : ℕ) (again : Bool) :
    (q.react r o).promises.outcome (.task call again) = q.promises.outcome (.task call again) := by
  cases r with
  | first call' =>
    cases o with
    | ok value => simp [Queue.react, Queue.settle]
    | error error =>
      simp only [Queue.react]
      split <;> simp [Queue.callTask, Queue.settle]
  | swallow call' => cases o <;> simp [Queue.react, Queue.settle]
  | _ => simp [Queue.react, Queue.attempt, Queue.callTask, Queue.settle]

theorem mem_react {q : Queue τ α} {r : Reaction} {o : Outcome α} {e : PromiseName × Reaction}
    (he : e ∈ q.promises.reactions) : e ∈ (q.react r o).promises.reactions := by
  cases r with
  | first call' =>
    cases o with
    | ok value => simpa [Queue.react, Queue.settle] using he
    | error error =>
      simp only [Queue.react]
      split <;> simp [Queue.callTask, Queue.settle, he]
  | swallow call' => cases o <;> simpa [Queue.react, Queue.settle] using he
  | _ => simp [Queue.react, Queue.attempt, Queue.callTask, Queue.settle, he]

theorem Started.react {q : Queue τ α} {call : ℕ} {again : Bool} (h : Started q call again)
    {e : PromiseName × Reaction} {o : Outcome α} (hr : q.promises.Ready e o) :
    Started ((q.take e).react e.2 o) call again := by
  rw [Started, react_outcome]
  obtain hmem | hsettled := h
  · by_cases he : (.task call again, if again then Reaction.second call else .first call) = e
    · right
      have hout := hr.2
      rw [← he] at hout
      simp [Queue.take, hout]
    · left
      apply mem_react
      simp [Queue.take, he, hmem]
  · exact .inr hsettled

/-! ### How long it takes -/

/-- The steps that the call still has before it. -/
def Phase.rest : Phase α → ℕ
  | .uncalled | .stored _ _ => 0
  | .waiting => 7
  | .running none => 6
  | .ended none _ => 5
  | .running (some _) => 4
  | .ended (some _) _ => 3
  | .attempted _ _ => 2
  | .returned _ _ => 1

theorem Phase.rest_le (φ : Phase α) : φ.rest ≤ 7 := by
  cases φ with
  | running failed => cases failed <;> simp [rest]
  | ended failed o => cases failed <;> simp [rest]
  | _ => simp [rest]

theorem Advances.rest_lt {φ φ' : Phase α} (h : Advances φ φ') (hφ : φ ≠ .uncalled) :
    φ'.rest < φ.rest := by
  cases h with
  | call => exact absurd rfl hφ
  | finish failed o => cases failed <;> simp [Phase.rest]
  | @attempt failed o h => cases failed <;> simp [Phase.rest]
  | _ => simp [Phase.rest]

def restOf (n : ℕ) (φ : ℕ → Phase α) : ℕ := ∑ call ∈ Finset.range n, (φ call).rest

theorem restOf_le (n : ℕ) (φ : ℕ → Phase α) : restOf n φ ≤ 7 * n := by
  induction n with
  | zero => simp [restOf]
  | succ n ih =>
    have hlast := (φ n).rest_le
    rw [restOf, Finset.sum_range_succ]
    rw [restOf] at ih
    omega

theorem restOf_update_lt {n current : ℕ} {φ : ℕ → Phase α} {ψ : Phase α} (hlt : current < n)
    (h : ψ.rest < (φ current).rest) : restOf n (Function.update φ current ψ) < restOf n φ := by
  apply Finset.sum_lt_sum
  · intro call _
    by_cases hc : call = current
    · subst hc
      rw [Function.update_self]
      omega
    · rw [Function.update_of_ne hc]
  · exact ⟨current, Finset.mem_range.mpr hlt, by rwa [Function.update_self]⟩

/-- A run without new calls ends. -/
theorem Serves.bounded {q : Queue τ α} {φ : ℕ → Phase α} {current : ℕ} (h : Serves q φ current)
    {states : ℕ → Queue τ α} (h₀ : states 0 = q) {n : ℕ}
    (hs : ∀ i < n, Step (states i) (states (i + 1)) ∧ (states (i + 1)).tasks = (states i).tasks) :
    n ≤ restOf q.tasks.length φ := by
  induction n generalizing q φ current states with
  | zero => omega
  | succ n ih =>
    obtain ⟨hstep, htasks⟩ := hs 0 (by omega)
    rw [h₀] at hstep htasks
    obtain ⟨task, heq⟩ | ⟨hlt, -, ψ, current', hadvances, hserves⟩ := h.step hstep
    · have hlength := congrArg List.length htasks
      rw [zero_add] at heq hlength
      simp [heq, Queue.enqueueSubmit] at hlength
    · have hrest := @ih _ _ _ hserves (fun i => states (i + 1)) rfl fun i hi => hs (i + 1) (by omega)
      have hless := restOf_update_lt hlt (hadvances.rest_lt (h.called hlt))
      rw [htasks] at hrest
      omega

/-! ### Serialization -/

/-- What a call that has come to its end has left in the log, and its final outcome. -/
inductive Completes (call : ℕ) : List (Event α) → Outcome α → Prop
  | once {o : Outcome α} (h : ¬ Retried o) : Completes call [.started call, .ended call o] o
  | twice {e : Thrown} (he : isNonceError e = true) (o : Outcome α) :
    Completes call [.started call, .ended call (.error e), .started call, .ended call o] o

/-- The log is the calls' parts in the order of the calls, all up to some call complete and none
after it begun, and a caller's promise has settled as the call's own part ends. -/
structure InOrder (q : Queue τ α) (parts : ℕ → List (Event α)) (current : ℕ) : Prop where
  log : q.log = (List.range q.tasks.length).flatMap parts
  before : ∀ call < current, ∃ o, Completes call (parts call) o
  now : ∃ part o, Completes current part o ∧ parts current <+: part
  after : ∀ call, current < call → parts call = []
  outcome : ∀ call o, q.promises.outcome (.run call) = some o → Completes call (parts call) o

/-- Nothing can happen any more but a new call. -/
def Quiescent (q : Queue τ α) : Prop := ∀ q', Step q q' → q'.tasks ≠ q.tasks

/-- What the queue promises: order and outcomes, that without new calls it comes to rest, and that
every call has then been served. -/
structure Serialized (q : Queue τ α) : Prop where
  inOrder : ∃ parts current, InOrder q parts current
  ends : ∀ (states : ℕ → Queue τ α) n, states 0 = q →
    (∀ i < n, Step (states i) (states (i + 1)) ∧ (states (i + 1)).tasks = (states i).tasks) →
      n ≤ 7 * q.tasks.length
  served : Quiescent q →
    ∀ call < q.tasks.length, (q.promises.outcome (.run call)).isSome

theorem Phase.completes {call : ℕ} {failed : Option Thrown} {o : Outcome α}
    (hfailed : ∀ e ∈ failed, isNonceError e = true) (h : failed = none → ¬ Retried o) :
    Completes call ((Phase.ended failed o).events call) o := by
  cases failed with
  | none => exact .once (h rfl)
  | some e => exact .twice (hfailed e rfl) o

theorem Phase.part {call : ℕ} {φ : Phase α} (h : φ.Sound) :
    ∃ part o, Completes call part o ∧ φ.events call <+: part := by
  cases φ with
  | uncalled => exact ⟨_, .ok none, .once id, List.nil_prefix⟩
  | waiting => exact ⟨_, .ok none, .once id, List.nil_prefix⟩
  | running failed =>
    cases failed with
    | none => exact ⟨_, .ok none, .once id, [_], rfl⟩
    | some e => exact ⟨_, .ok none, .twice (h e rfl) _, [_], rfl⟩
  | ended failed o =>
    by_cases hretry : failed = none ∧ Retried o
    · obtain ⟨rfl, hretried⟩ := hretry
      cases o with
      | ok value => exact hretried.elim
      | error e => exact ⟨_, .ok none, .twice hretried _, [_, _], rfl⟩
    · exact ⟨_, o, completes h fun hnone hretried => hretry ⟨hnone, hretried⟩, List.prefix_refl _⟩
  | attempted failed o => exact ⟨_, o, completes h.1 h.2, List.prefix_refl _⟩
  | returned failed o => exact ⟨_, o, completes h.1 h.2, List.prefix_refl _⟩
  | stored failed o => exact ⟨_, o, completes h.1 h.2, List.prefix_refl _⟩

theorem Serves.inOrder {q : Queue τ α} {φ : ℕ → Phase α} {current : ℕ} (h : Serves q φ current) :
    InOrder q (fun call => (φ call).events call) current where
  log := h.log
  before call hcall := by
    obtain ⟨failed, o, hstored⟩ := h.before call hcall
    have hsound := h.sound call
    rw [hstored] at hsound ⊢
    exact ⟨o, Phase.completes hsound.1 hsound.2⟩
  now := Phase.part (h.sound current)
  after call hcall := by
    by_cases hlt : call < q.tasks.length
    · rw [h.after call hcall hlt]
      rfl
    · rw [h.uncalled call (by omega)]
      rfl
  outcome call o ho := by
    have hsound := h.sound call
    rw [(h.links call).outcome _ rfl] at ho
    cases hφ : φ call with
    | returned failed o' =>
      rw [hφ] at ho hsound
      obtain rfl : o' = o := Option.some.inj ho
      exact Phase.completes hsound.1 hsound.2
    | stored failed o' =>
      rw [hφ] at ho hsound
      obtain rfl : o' = o := Option.some.inj ho
      exact Phase.completes hsound.1 hsound.2
    | _ => simp [hφ, Phase.outcome, Phase.runOutcome] at ho

theorem enqueueSubmit_serialized {q : Queue τ α} (hq : Reachable q) : Serialized q := by
  obtain ⟨φ, current, h⟩ := hq.serves
  refine ⟨⟨_, _, h.inOrder⟩, fun states n h₀ hs => ?_, fun hquiet call hcall => ?_⟩
  · exact (h.bounded h₀ hs).trans (restOf_le _ _)
  · have hdone : ¬ current < q.tasks.length := by
      intro hlt
      obtain ⟨q', hstep, htasks⟩ := h.progress hlt
      exact hquiet q' hstep htasks
    obtain ⟨failed, o, hstored⟩ := h.before call (by omega)
    rw [(h.links call).outcome _ rfl, hstored]
    rfl

/-- The first call's task is run again, and the second call's fails. -/
def sampleMoves : List (Move String String) :=
  [.enqueue "register", .enqueue "verify",
    .react (.resolved, .attempt 0),
    .endTask 0 false (.error (.object (some (.text "NONCE_EXPIRED")) (some "nonce too low"))),
    .react (.task 0 false, .first 0), .endTask 0 true (.ok (some "0xface")),
    .react (.task 0 true, .second 0), .react (.attempt 0, .adopt 0), .react (.run 0, .swallow 0),
    .react (.stored 0, .attempt 1), .endTask 1 false (.error (.object none (some "reverted"))),
    .react (.task 1 false, .first 1), .react (.attempt 1, .adopt 1), .react (.run 1, .swallow 1)]

theorem enqueueSubmit_serialized_sample : ∃ q, Queue.initial.exec sampleMoves = some q ∧
    q.log.length = 6 ∧ Serialized q := by
  have hrun : ((Queue.initial : Queue String String).exec sampleMoves).isSome := by rfl
  refine ⟨_, (Option.some_get hrun).symm, rfl, ?_⟩
  exact enqueueSubmit_serialized (exec_reachable .refl (Option.some_get hrun).symm)

end Sampraan.Blockchain.SubmitQueue
