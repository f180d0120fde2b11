import Sampraan.Blockchain.SubmitOrder
import Sampraan.Library.Machine

/-!
The tasks of the submit queue at work with the node: each signs one
transaction, broadcasts it and waits for its receipt. A broadcast can be lost,
come late or reach the node more than once, and any step can fail with any
error.
-/

namespace Sampraan.Blockchain.DoubleSubmission

open Backend Library SubmitQueue

/-! ### The node -/

structure SignedTransaction where
  sender : String
  nonce : ℕ
  content : String
  deriving DecidableEq

/-- The call that has put the transaction into the pool, and whether its second run did; none when
it was another holder of the key. -/
abbrev Origin := Option (ℕ × Bool)

structure Entry where
  tx : SignedTransaction
  origin : Origin
  deriving DecidableEq

structure Node where
  pool : List Entry
  chain : List Entry

inductive Rejection where
  | alreadyKnown
  | nonceTooLow
  | replacementUnderpriced
  deriving DecidableEq

namespace Node

def accountNonce (node : Node) (sender : String) : ℕ := node.chain.countP (·.tx.sender == sender)

/-- `eth_sendRawTransaction` -/
def receive (node : Node) (entry : Entry) : Except Rejection Unit × Node :=
  if node.pool.any (·.tx == entry.tx) then (.error .alreadyKnown, node)
  else if entry.tx.nonce < node.accountNonce entry.tx.sender then (.error .nonceTooLow, node)
  else if node.pool.any fun e => e.tx.sender == entry.tx.sender && e.tx.nonce == entry.tx.nonce then
    (.error .replacementUnderpriced, node)
  else (.ok (), { node with pool := node.pool ++ [entry] })

/-- Whatever the pool and the chain hold of one origin. -/
def holds (node : Node) (origin : Origin) : ℕ :=
  (node.pool ++ node.chain).countP (·.origin == origin)

end Node

/-! ### The tasks -/

structure Submission where
  sender : String
  content : String

/-- How far one run of a task has come. `answer` is the node's answer to the request that reached
it last. -/
inductive RunPhase where
  | preparing
  | sent (tx : SignedTransaction) (answer : Option (Except Rejection Unit))
  | waiting (tx : SignedTransaction)
  | over (tx : Option SignedTransaction)

def RunPhase.signed : RunPhase → Option SignedTransaction
  | .preparing => none
  | .sent tx _ | .waiting tx => some tx
  | .over tx => tx

structure State where
  queue : Queue Submission String
  node : Node
  runs : ℕ → Bool → RunPhase

namespace State

def initial (node : Node) : State where
  queue := .initial
  node := node
  runs := fun _ _ => .preparing

def setRun (s : State) (call : ℕ) (again : Bool) (phase : RunPhase) : State :=
  { s with runs := Function.update s.runs call (Function.update (s.runs call) again phase) }

/-- The task's promise settles. -/
def finish (s : State) (call : ℕ) (again : Bool) (o : Outcome String) : State :=
  let ended := s.setRun call again (.over (s.runs call again).signed)
  { ended with queue := s.queue.endTask call again o }

end State

inductive Action where
  | enqueue (task : Submission)
  | react (e : PromiseName × Reaction)
  /-- The run fails before it has signed. -/
  | fail (call : ℕ) (again : Bool) (error : Thrown)
  | sign (call : ℕ) (again : Bool) (nonce : ℕ)
  /-- A request with the run's transaction reaches the node. -/
  | deliver (call : ℕ) (again : Bool)
  | answer (call : ℕ) (again : Bool)
  /-- The broadcast fails for the run, whether or not a request has reached the node. -/
  | lose (call : ℕ) (again : Bool) (error : Thrown)
  | confirm (call : ℕ) (again : Bool) (transactionHash : String)
  | giveUp (call : ℕ) (again : Bool) (error : Thrown)
  | mine (entry : Entry)
  | drop (entry : Entry)
  /-- Another holder of a key sends a transaction. -/
  | sendElsewhere (tx : SignedTransaction)

/-- The error that the client library makes of the node's answer. -/
abbrev AnswerError := Rejection → Thrown

variable (answerError : AnswerError)

def deliver (s : State) (call : ℕ) (again : Bool) : Option State :=
  (s.runs call again).signed.map fun tx =>
    let (answer, node) := s.node.receive { tx := tx, origin := some (call, again) }
    let reached := { s with node := node }
    match s.runs call again with
    | .sent _ _ => reached.setRun call again (.sent tx (some answer))
    | _ => reached

/-- What a run does next. -/
def runStep (s : State) (call : ℕ) (again : Bool) : Action → Option State
  | .fail _ _ error =>
    match s.runs call again with
    | .preparing => some (s.finish call again (.error error))
    | _ => none
  | .sign _ _ nonce =>
    match s.runs call again, s.queue.tasks[call]? with
    | .preparing, some task =>
      some (s.setRun call again (.sent ⟨task.sender, nonce, task.content⟩ none))
    | _, _ => none
  | .answer _ _ =>
    match s.runs call again with
    | .sent tx (some (.ok ())) => some (s.setRun call again (.waiting tx))
    | .sent _ (some (.error rejection)) =>
      some (s.finish call again (.error (answerError rejection)))
    | _ => none
  | .lose _ _ error =>
    match s.runs call again with
    | .sent _ _ => some (s.finish call again (.error error))
    | _ => none
  | .confirm _ _ transactionHash =>
    match s.runs call again with
    | .waiting tx =>
      if s.node.chain.any (·.tx == tx) then
        some (s.finish call again (.ok (some transactionHash)))
      else none
    | _ => none
  | .giveUp _ _ error =>
    match s.runs call again with
    | .waiting _ => some (s.finish call again (.error error))
    | _ => none
  | _ => none

/-- The run of a task that an action belongs to. -/
def Action.run? : Action → Option (ℕ × Bool)
  | .fail call again _ | .sign call again _ | .answer call again | .lose call again _
  | .confirm call again _ | .giveUp call again _ => some (call, again)
  | _ => none

def step (s : State) (action : Action) : Option State :=
  match action.run? with
  | some (call, again) =>
    if s.queue.Running call again then runStep answerError s call again action else none
  | none =>
    match action with
    | .enqueue task => some { s with queue := (s.queue.enqueueSubmit task).2 }
    | .react e => (s.queue.apply (.react e)).map fun queue => { s with queue := queue }
    | .deliver call again => deliver s call again
    | .mine entry =>
      if entry ∈ s.node.pool ∧ entry.tx.nonce = s.node.accountNonce entry.tx.sender then
        some { s with
          node := { pool := s.node.pool.erase entry, chain := s.node.chain ++ [entry] } }
      else none
    | .drop entry => some { s with node := { s.node with pool := s.node.pool.erase entry } }
    | .sendElsewhere tx => some { s with node := (s.node.receive { tx := tx, origin := none }).2 }
    | _ => none

def machine : Machine Action State Unit where
  run action s :=
    match step answerError s action with
    | some t => .ok t
    | none => .error ()

/-! ### When a task is run again -/

def Origin.isOf (call : ℕ) (origin : Origin) : Bool :=
  origin == some (call, false) || origin == some (call, true)

/-- A task has been run again only with nothing of its first run in the pool or on the chain, and
no call has two transactions on the chain. -/
structure SubmitsOnce (s : State) : Prop where
  retried : ∀ call, Started s.queue call true → s.node.holds (some (call, false)) = 0
  mined : ∀ call, s.node.chain.countP (fun entry => Origin.isOf call entry.origin) ≤ 1

/-- A broadcast reaches the node at most once, while its run waits for the answer, and once the
node has taken the transaction no error is a nonce error. -/
def Careful (action : Action) (s : State) : Prop :=
  match action with
  | .deliver call again =>
    match s.runs call again with
    | .sent _ none => True
    | _ => False
  | .lose call again error =>
    match s.runs call again with
    | .sent _ (some (.ok ())) => isNonceError error = false
    | _ => True
  | .giveUp _ _ error => isNonceError error = false
  | _ => True

/-! ### What the node holds -/

theorem holds_receive (node : Node) (entry : Entry) (origin : Origin) :
    (node.receive entry).2.holds origin = node.holds origin +
      if (node.receive entry).1 = .ok () ∧ entry.origin = origin then 1 else 0 := by
  unfold Node.receive
  split
  · simp
  split
  · simp
  split
  · simp
  · simp only [Node.holds, List.countP_append, List.countP_singleton, true_and, beq_iff_eq]
    omega

theorem holds_mine {node : Node} {entry : Entry} (h : entry ∈ node.pool) (origin : Origin) :
    { pool := node.pool.erase entry, chain := node.chain ++ [entry] : Node }.holds origin =
      node.holds origin := by
  have hperm := (List.perm_cons_erase h).countP_eq (·.origin == origin)
  simp only [Node.holds, List.countP_append, List.countP_cons, List.countP_nil] at hperm ⊢
  omega

theorem holds_drop (node : Node) (entry : Entry) (origin : Origin) :
    { node with pool := node.pool.erase entry }.holds origin ≤ node.holds origin := by
  have hsub := (List.erase_sublist (a := entry) (l := node.pool)).countP_le (p := (·.origin == origin))
  simp only [Node.holds, List.countP_append]
  omega

theorem countP_isOf_le (node : Node) (call : ℕ) :
    node.chain.countP (fun entry => Origin.isOf call entry.origin) ≤
      node.holds (some (call, false)) + node.holds (some (call, true)) := by
  have hchain : ∀ entries : List Entry,
      entries.countP (fun entry => Origin.isOf call entry.origin) ≤
        entries.countP (·.origin == some (call, false)) +
          entries.countP (·.origin == some (call, true)) := by
    intro entries
    induction entries with
    | nil => simp
    | cons entry entries ih =>
      simp only [List.countP_cons, Origin.isOf, Bool.or_eq_true] at ih ⊢
      split
      · rename_i horigin
        obtain horigin | horigin := horigin
        · simp only [horigin, if_true]
          omega
        · simp only [horigin, if_true]
          omega
      · omega
  have hle := hchain node.chain
  simp only [Node.holds, List.countP_append]
  omega

/-! ### The invariant -/

/-- The node has the run's transaction in hand only when it has said so, each run has come as far
as the queue has called it, and a run that is over for a nonce error has left nothing. -/
structure Accounted (s : State) : Prop where
  queue : Reachable s.queue
  unsent : ∀ call again, s.runs call again = .preparing → s.node.holds (some (call, again)) = 0
  unanswered : ∀ call again tx answer, s.runs call again = .sent tx answer →
    answer ≠ some (.ok ()) → s.node.holds (some (call, again)) = 0
  once : ∀ call again, s.node.holds (some (call, again)) ≤ 1
  refused : ∀ call again e, s.queue.promises.outcome (.task call again) = some (.error e) →
    isNonceError e = true → s.node.holds (some (call, again)) = 0
  finished : ∀ call again, (s.queue.promises.outcome (.task call again)).isSome →
    ∃ tx, s.runs call again = .over tx
  started : ∀ call again, s.runs call again ≠ .preparing → Started s.queue call again

theorem setRun_runs (s : State) (call call' : ℕ) (again again' : Bool) (phase : RunPhase) :
    (s.setRun call again phase).runs call' again' =
      if call' = call ∧ again' = again then phase else s.runs call' again' := by
  unfold State.setRun
  by_cases hcall : call' = call
  · subst hcall
    simp [Function.update_apply]
  · simp [hcall]

theorem accounted_initial {node : Node}
    (hnode : ∀ entry ∈ node.pool ++ node.chain, entry.origin = none) :
    Accounted (.initial node) := by
  have hnone : ∀ call again, node.holds (some (call, again)) = 0 := by
    intro call again
    apply List.countP_eq_zero.mpr
    intro entry hentry
    simp [hnode entry hentry]
  refine ⟨.refl, fun call again _ => hnone call again, fun call again _ _ _ _ => hnone call again,
    fun call again => (hnone call again).le.trans (Nat.zero_le 1),
    fun call again _ _ _ => hnone call again, ?_, ?_⟩
  · intro call again h
    simp [State.initial, Queue.initial] at h
  · intro call again h
    exact absurd rfl h

namespace Accounted

variable {s : State} (h : Accounted s)

include h

/-- The queue moves without a task's promise settling. -/
theorem moveQueue {q : Queue Submission String} (hq : Reachable q)
    (hout : ∀ call again, q.promises.outcome (.task call again) =
      s.queue.promises.outcome (.task call again))
    (hstarted : ∀ call again, Started s.queue call again → Started q call again) :
    Accounted { s with queue := q } where
  queue := hq
  unsent := h.unsent
  unanswered := h.unanswered
  once := h.once
  refused call again e he := h.refused call again e (by rwa [← hout])
  finished call again hsome := h.finished call again (by rwa [← hout])
  started call again hphase := hstarted call again (h.started call again hphase)

theorem moveNode {node : Node}
    (hle : ∀ call again, node.holds (some (call, again)) ≤ s.node.holds (some (call, again))) :
    Accounted { s with node := node } where
  queue := h.queue
  unsent call again hphase := by
    have hzero := h.unsent call again hphase
    have := hle call again
    simp only
    omega
  unanswered call again tx answer hphase hanswer := by
    have hzero := h.unanswered call again tx answer hphase hanswer
    have := hle call again
    simp only
    omega
  once call again := (hle call again).trans (h.once call again)
  refused call again e he hnonce := by
    have hzero := h.refused call again e he hnonce
    have := hle call again
    simp only
    omega
  finished := h.finished
  started := h.started

theorem moveRun {call : ℕ} {again : Bool} {phase : RunPhase}
    (hrun : s.queue.Running call again) (hsent : phase ≠ .preparing)
    (hanswer : ∀ tx answer, phase = .sent tx answer → answer ≠ some (.ok ()) →
      s.node.holds (some (call, again)) = 0) :
    Accounted (s.setRun call again phase) where
  queue := h.queue
  unsent call' again' hphase := by
    rw [setRun_runs] at hphase
    split at hphase
    · exact absurd hphase hsent
    · exact h.unsent call' again' hphase
  unanswered call' again' tx answer hphase hne := by
    rw [setRun_runs] at hphase
    split at hphase
    · rename_i hsame
      obtain ⟨rfl, rfl⟩ := hsame
      exact hanswer tx answer hphase hne
    · exact h.unanswered call' again' tx answer hphase hne
  once := h.once
  refused := h.refused
  finished call' again' hsome := by
    rw [setRun_runs]
    split
    · rename_i hsame
      obtain ⟨rfl, rfl⟩ := hsame
      have hpending := hrun.2
      change (s.queue.promises.outcome _).isSome at hsome
      simp [hpending] at hsome
    · exact h.finished call' again' hsome
  started call' again' hphase := by
    rw [setRun_runs] at hphase
    split at hphase
    · rename_i hsame
      obtain ⟨rfl, rfl⟩ := hsame
      exact .inl hrun.1
    · exact h.started call' again' hphase

theorem finish {call : ℕ} {again : Bool} {o : Outcome String} (hrun : s.queue.Running call again)
    (ho : ∀ e, o = .error e → isNonceError e = true → s.node.holds (some (call, again)) = 0) :
    Accounted (s.finish call again o) := by
  have hmoved : Accounted (s.setRun call again (.over (s.runs call again).signed)) :=
    h.moveRun hrun (by simp) (by simp)
  have hout : ∀ call' again', (s.finish call again o).queue.promises.outcome (.task call' again') =
      if call' = call ∧ again' = again then some o
      else s.queue.promises.outcome (.task call' again') := by
    intro call' again'
    simp [State.finish, Queue.endTask, Queue.settle]
  refine ⟨h.queue.tail (.endTask o hrun), hmoved.unsent, hmoved.unanswered, hmoved.once, ?_, ?_, ?_⟩
  · intro call' again' e he hnonce
    rw [hout] at he
    split at he
    · rename_i hsame
      obtain ⟨rfl, rfl⟩ := hsame
      exact ho e (Option.some.inj he) hnonce
    · exact h.refused call' again' e he hnonce
  · intro call' again' hsome
    change ∃ tx, (s.setRun call again _).runs call' again' = _
    rw [setRun_runs]
    split
    · exact ⟨_, rfl⟩
    · rename_i hother
      rw [hout, if_neg hother] at hsome
      exact h.finished call' again' hsome
  · intro call' again' hphase
    obtain hmem | hsettled := hmoved.started call' again' hphase
    · exact .inl hmem
    · right
      rw [hout]
      split
      · rfl
      · exact hsettled

end Accounted

variable {answerError}

theorem Accounted.runStep {s t : State} (h : Accounted s) {action : Action} {call : ℕ} {again : Bool}
    (haction : action.run? = some (call, again)) (hC : Careful action s)
    (hrun : s.queue.Running call again) (ht : runStep answerError s call again action = some t) :
    Accounted t := by
  cases action with
  | fail call' again' error =>
    obtain ⟨rfl, rfl⟩ : call' = call ∧ again' = again := by simpa [Action.run?] using haction
    simp only [DoubleSubmission.runStep] at ht
    split at ht
    · rename_i hphase
      obtain rfl := Option.some.inj ht
      exact h.finish hrun fun e _ _ => h.unsent _ _ hphase
    · cases ht
  | sign call' again' nonce =>
    obtain ⟨rfl, rfl⟩ : call' = call ∧ again' = again := by simpa [Action.run?] using haction
    simp only [DoubleSubmission.runStep] at ht
    split at ht
    · rename_i hphase _
      obtain rfl := Option.some.inj ht
      exact h.moveRun hrun (by simp) fun _ _ _ _ => h.unsent _ _ hphase
    · cases ht
  | answer call' again' =>
    obtain ⟨rfl, rfl⟩ : call' = call ∧ again' = again := by simpa [Action.run?] using haction
    simp only [DoubleSubmission.runStep] at ht
    split at ht
    · obtain rfl := Option.some.inj ht
      exact h.moveRun hrun (by simp) (by simp)
    · rename_i hphase
      obtain rfl := Option.some.inj ht
      exact h.finish hrun fun e _ _ => h.unanswered _ _ _ _ hphase (by simp)
    · cases ht
  | lose call' again' error =>
    obtain ⟨rfl, rfl⟩ : call' = call ∧ again' = again := by simpa [Action.run?] using haction
    simp only [DoubleSubmission.runStep] at ht
    split at ht
    · rename_i tx answer hphase
      obtain rfl := Option.some.inj ht
      apply h.finish hrun
      intro e he hnonce
      obtain rfl : error = e := by simpa using he
      apply h.unanswered _ _ _ _ hphase
      rintro rfl
      simp [Careful, hphase, hnonce] at hC
    · cases ht
  | confirm call' again' transactionHash =>
    obtain ⟨rfl, rfl⟩ : call' = call ∧ again' = again := by simpa [Action.run?] using haction
    simp only [DoubleSubmission.runStep] at ht
    split at ht
    · split at ht
      · obtain rfl := Option.some.inj ht
        exact h.finish hrun fun e he => nomatch he
      · cases ht
    · cases ht
  | giveUp call' again' error =>
    obtain ⟨rfl, rfl⟩ : call' = call ∧ again' = again := by simpa [Action.run?] using haction
    simp only [DoubleSubmission.runStep] at ht
    split at ht
    · obtain rfl := Option.some.inj ht
      apply h.finish hrun
      intro e he hnonce
      obtain rfl : error = e := by simpa using he
      simp [Careful, hnonce] at hC
    · cases ht
  | _ => cases haction

/-- The one request of a run that waits for its answer. -/
theorem Accounted.deliver {s t : State} (h : Accounted s) {call : ℕ} {again : Bool}
    (hC : Careful (.deliver call again) s) (ht : deliver s call again = some t) : Accounted t := by
  simp only [Careful] at hC
  split at hC
  · rename_i tx hphase
    obtain ⟨answer, node, hreceive⟩ : ∃ answer node,
        s.node.receive { tx := tx, origin := some (call, again) } = (answer, node) := ⟨_, _, rfl⟩
    have hholds := holds_receive s.node { tx := tx, origin := some (call, again) }
    simp only [hreceive] at hholds
    simp only [DoubleSubmission.deliver, hphase, RunPhase.signed, Option.map_some, hreceive,
      Option.some.injEq] at ht
    subst ht
    have hzero := h.unanswered _ _ _ _ hphase (by simp)
    have hother : ∀ call' again', (call', again') ≠ (call, again) →
        node.holds (some (call', again')) = s.node.holds (some (call', again')) := by
      intro call' again' hne
      rw [hholds, if_neg fun hsame => hne (Option.some.inj hsame.2).symm]
      rfl
    have hrunning : s.queue.promises.outcome (.task call again) = none := by
      by_contra hsome
      obtain ⟨tx', hover⟩ := h.finished _ _ (Option.isSome_iff_ne_none.mpr hsome)
      rw [hphase] at hover
      cases hover
    refine ⟨h.queue, fun call' again' hprep => ?_, fun call' again' tx' answer' hsent hanswer => ?_,
      fun call' again' => ?_, fun call' again' e he hnonce => ?_, fun call' again' hsome => ?_,
      fun call' again' hprep => ?_⟩
    · rw [setRun_runs] at hprep
      split at hprep
      · cases hprep
      · rename_i hne
        exact (hother _ _ (by simpa using hne)).trans (h.unsent _ _ hprep)
    · rw [setRun_runs] at hsent
      split at hsent
      · rename_i hsame
        obtain ⟨rfl, rfl⟩ := hsame
        obtain ⟨-, rfl⟩ : tx = tx' ∧ some answer = answer' := by simpa using hsent
        change node.holds _ = 0
        rw [hholds, hzero, if_neg fun hok => hanswer (congrArg some hok.1)]
      · rename_i hne
        exact (hother _ _ (by simpa using hne)).trans (h.unanswered _ _ _ _ hsent hanswer)
    · change node.holds _ ≤ 1
      by_cases hsame : (call', again') = (call, again)
      · obtain ⟨rfl, rfl⟩ := Prod.mk.inj hsame
        rw [hholds, hzero]
        split <;> omega
      · rw [hother _ _ hsame]
        exact h.once _ _
    · by_cases hsame : (call', again') = (call, again)
      · obtain ⟨rfl, rfl⟩ := Prod.mk.inj hsame
        change s.queue.promises.outcome _ = _ at he
        rw [hrunning] at he
        cases he
      · exact (hother _ _ hsame).trans (h.refused _ _ e he hnonce)
    · change (s.queue.promises.outcome _).isSome at hsome
      rw [setRun_runs]
      split
      · rename_i hsame
        obtain ⟨rfl, rfl⟩ := hsame
        simp [hrunning] at hsome
      · exact h.finished _ _ hsome
    · rw [setRun_runs] at hprep
      split at hprep
      · rename_i hsame
        obtain ⟨rfl, rfl⟩ := hsame
        exact h.started _ _ (by simp [hphase])
      · exact h.started _ _ hprep
  · exact hC.elim

theorem Accounted.step {s t : State} (h : Accounted s) {action : Action} (hC : Careful action s)
    (ht : step answerError s action = some t) : Accounted t := by
  unfold DoubleSubmission.step at ht
  split at ht
  · rename_i call again haction
    split at ht
    · exact h.runStep haction hC ‹_› ht
    · cases ht
  · cases action with
    | enqueue task =>
      obtain rfl := Option.some.inj ht
      apply h.moveQueue (h.queue.tail (.enqueue task))
      · intro call again
        rfl
      · intro call again hstarted
        refine hstarted.imp (fun hmem => ?_) id
        simp [Queue.enqueueSubmit, hmem]
    | react e =>
      simp only [Queue.apply, Option.map_eq_some_iff, Option.ite_none_right_eq_some] at ht
      obtain ⟨q, ⟨hmem, o, hout, rfl⟩, rfl⟩ := ht
      have hready : s.queue.promises.Ready e o := ⟨hmem, hout⟩
      apply h.moveQueue (h.queue.tail (.react hready))
      · intro call again
        rw [react_outcome]
        rfl
      · intro call again hstarted
        exact hstarted.react hready
    | deliver call again => exact h.deliver hC ht
    | mine entry =>
      simp only [Option.ite_none_right_eq_some, Option.some.injEq] at ht
      obtain ⟨⟨hmem, -⟩, rfl⟩ := ht
      exact h.moveNode fun call again => (holds_mine hmem _).le
    | drop entry =>
      obtain rfl := Option.some.inj ht
      exact h.moveNode fun call again => holds_drop _ _ _
    | sendElsewhere tx =>
      obtain rfl := Option.some.inj ht
      apply h.moveNode
      intro call again
      rw [holds_receive, if_neg (by simp)]
      omega
    | _ => cases ht

theorem submitsOnce {node : Node} (hnode : ∀ entry ∈ node.pool ++ node.chain, entry.origin = none)
    {h : List (Action × State × State)} {s : State}
    (hr : (machine answerError).Run Careful (.initial node) h s) : SubmitsOnce s := by
  have haccounted : Accounted s := by
    apply hr.invariant (accounted_initial hnode)
    intro action s t hs hC ht
    cases hstep : step answerError s action with
    | none => simp [machine, hstep] at ht
    | some t' =>
      obtain rfl : t' = t := by simpa [machine, hstep] using ht
      exact hs.step hC hstep
  have hretried : ∀ call, Started s.queue call true → s.node.holds (some (call, false)) = 0 := by
    intro call hstarted
    obtain ⟨e, he, hnonce⟩ := haccounted.queue.retried hstarted
    exact haccounted.refused call false e he hnonce
  refine ⟨hretried, fun call => ?_⟩
  have hsum := countP_isOf_le s.node call
  by_cases hstarted : Started s.queue call true
  · have hzero := hretried call hstarted
    have honce := haccounted.once call true
    omega
  · have hprep : s.runs call true = .preparing := by
      by_contra hne
      exact hstarted (haccounted.started call true hne)
    have hzero := haccounted.unsent call true hprep
    have honce := haccounted.once call false
    omega

/-! ### Sample runs -/

/-- What `ethers` makes of the answers. -/
def ethersError : AnswerError
  | .alreadyKnown => .object (some (.text "UNKNOWN_ERROR")) (some "could not coalesce error: already known")
  | .nonceTooLow => .object (some (.text "NONCE_EXPIRED")) (some "nonce has already been used")
  | .replacementUnderpriced =>
    .object (some (.text "REPLACEMENT_UNDERPRICED")) (some "replacement fee too low")

instance (action : Action) (s : State) : Decidable (Careful action s) := by
  unfold Careful
  split
  · split <;> infer_instance
  · split <;> infer_instance
  · infer_instance
  · infer_instance

def emptyNode : Node where
  pool := []
  chain := []

def sampleTask : Submission where
  sender := "0x0A"
  content := "registerAsset CRATE-1"

def sampleEntry (nonce : ℕ) (origin : Origin) : Entry where
  tx := ⟨sampleTask.sender, nonce, sampleTask.content⟩
  origin := origin

/-- A gateway repeats the request: the node answers the second one that it knows the transaction. -/
def repeatedRequest : List Action :=
  [.enqueue sampleTask, .react (.resolved, .attempt 0), .sign 0 false 0, .deliver 0 false,
    .deliver 0 false, .answer 0 false, .react (.task 0 false, .first 0), .sign 0 true 1,
    .deliver 0 true, .answer 0 true, .mine (sampleEntry 0 (some (0, false))),
    .mine (sampleEntry 1 (some (0, true))), .confirm 0 true "0xface"]

/-- One call has the asset registered twice. -/
theorem not_submitsOnce : ∃ h s, (machine ethersError).Run (fun _ _ => True) (.initial emptyNode) h s ∧
    s.node.chain = [sampleEntry 0 (some (0, false)), sampleEntry 1 (some (0, true))] ∧
      ¬ SubmitsOnce s := by
  have hrun : ((machine ethersError).exec (fun _ _ => True) repeatedRequest []
      (.initial emptyNode)).map (fun r => r.2.node.chain) =
        some [sampleEntry 0 (some (0, false)), sampleEntry 1 (some (0, true))] := by rfl
  obtain ⟨⟨h, s⟩, hexec, hchain⟩ := Option.map_eq_some_iff.mp hrun
  refine ⟨h, s, Machine.exec_run .init hexec, hchain, fun honce => ?_⟩
  have hmined := honce.mined 0
  rw [hchain] at hmined
  exact absurd hmined (by decide)

/-- Another holder of the key has used the count in the meantime, so the first run is refused. -/
def staleCount : List Action :=
  [.enqueue sampleTask, .react (.resolved, .attempt 0), .sendElsewhere ⟨"0x0A", 0, "verifyIdentity"⟩,
    .sign 0 false 0, .mine ⟨⟨"0x0A", 0, "verifyIdentity"⟩, none⟩, .deliver 0 false, .answer 0 false,
    .react (.task 0 false, .first 0), .sign 0 true 1, .deliver 0 true, .answer 0 true,
    .mine (sampleEntry 1 (some (0, true))), .confirm 0 true "0xface"]

theorem submitsOnce_sample : ∃ h s, (machine ethersError).Run Careful (.initial emptyNode) h s ∧
    s.queue.log.length = 4 ∧ SubmitsOnce s := by
  have hrun : ((machine ethersError).exec Careful staleCount [] (.initial emptyNode)).isSome := by rfl
  have hr := Machine.exec_run .init (Option.some_get hrun).symm
  exact ⟨_, _, hr, rfl, submitsOnce (by simp [emptyNode]) hr⟩

end Sampraan.Blockchain.DoubleSubmission
