import Sampraan.Blockchain.Anchoring

/-! What each statement of an anchor or of a status change does to the node, and what the answers
rest on. -/

namespace Sampraan.Blockchain.Anchoring

open Backend (Environment BesuConfig deriveIdentityWallet)
open Contracts Library SubmitQueue
open Library.Async (Passed passed_now)

variable {env : Environment} {link : Link}

/-! ### Statements -/

/-- A statement of a call leaves the chain and the pool alone, sends a transaction that meets `P`, or
sees one mined. -/
inductive Effect (link : Link) (P : SampraanIdentityRegistry.Call → Prop) (s t : Network) : Prop
  | keeps (hchain : t.chain = s.chain) (hblocks : t.blocks = s.blocks) (hpool : t.pool = s.pool)
    (haudits : s.auditEvents <+: t.auditEvents)
  | takes (call : SampraanIdentityRegistry.Call) (hcall : P call) (ht : t = take call s)
  | mines (k : ℕ) (ht : t = mine link k s)

theorem Effect.rfl {P : SampraanIdentityRegistry.Call → Prop} {s : Network} : Effect link P s s :=
  .keeps (.refl _) (.refl _) (.refl _) (List.prefix_refl _)

theorem broadcast_effect {P : SampraanIdentityRegistry.Call → Prop}
    {call : SampraanIdentityRegistry.Call} (hcall : P call) (s : Network) :
    Effect link P s (broadcast call s).2 := by
  unfold broadcast
  split
  · exact .rfl
  · split
    · exact .takes call hcall rfl
    · exact .takes call hcall rfl

theorem wait_effect {P : SampraanIdentityRegistry.Call → Prop} (k : ℕ) (s : Network) :
    Effect link P s (wait link k s).2 := by
  unfold wait
  split
  · exact .rfl
  · exact .mines k rfl

/-! ### Errors -/

def LooksRegistered (error : ChainError) : Prop := isAlreadyRegisteredError (describeError error) = true

/-- The node, or what the adapter makes of its receipts, gives the error. -/
def Speaks (n : Network) (error : ChainError) : Prop :=
  n.initialization = some error ∨ n.refusal = some error ∨ n.lostAnswer = some error ∨
    ∃ tx ∈ n.pool, ∃ receipt action, tx.receipt = some receipt ∧
      error = revertedIn action receipt.hash receipt.blockNumber

/-- Why a request to send the transaction has failed. -/
inductive Explained (link : Link) (call : SampraanIdentityRegistry.Call) (action : String)
    (error : ChainError) (h : List (Network × Network)) : Prop
  | reverted (revert : Revert) (he : error = link.revertError revert)
    (hrun : Passed (fun _ s _ => runNow link s call = .error revert) h)
  | told (hspeaks : Passed (fun _ s t => Speaks s error ∨ Speaks t error) h)
  | unmined (he : error = plainError s!"Transaction for {action} was not mined")

/-- The node has taken the transaction, at this place. -/
def Sent (call : SampraanIdentityRegistry.Call) (k : ℕ) (h : List (Network × Network)) : Prop :=
  Passed (fun _ s t => s.pool.length = k ∧ t = take call s) h

/-- The `k`-th transaction has been mined as the evidence says. -/
def Mined (k : ℕ) (evidence : TransactionEvidence) (h : List (Network × Network)) : Prop :=
  Passed (fun _ _ t => ∃ tx receipt, t.pool[k]? = some tx ∧ tx.receipt = some receipt ∧
    receipt.succeeded = true ∧ evidence = ⟨receipt.hash, receipt.blockNumber⟩) h

def Evidenced (call : SampraanIdentityRegistry.Call) (evidence : TransactionEvidence)
    (h : List (Network × Network)) : Prop :=
  ∃ k, Sent call k h ∧ Mined k evidence h

section

variable {call : SampraanIdentityRegistry.Call} {action : String} {h h' : List (Network × Network)}

theorem Explained.mono {error : ChainError} (he : Explained link call action error h)
    (hh : h <+: h') : Explained link call action error h' := by
  cases he with
  | reverted revert he hrun => exact .reverted revert he (hrun.mono hh)
  | told hspeaks => exact .told (hspeaks.mono hh)
  | unmined he => exact .unmined he

theorem Evidenced.mono {evidence : TransactionEvidence} (he : Evidenced call evidence h)
    (hh : h <+: h') : Evidenced call evidence h' := by
  obtain ⟨k, hsent, hmined⟩ := he
  exact ⟨k, hsent.mono hh, hmined.mono hh⟩

/-- What an attempt comes to, after what its call had run before. -/
def Attempts {α : Type} (link : Link) (call : SampraanIdentityRegistry.Call) (action : String)
    (R : α → List (Network × Network) → Prop) (h : List (Network × Network)) (o : Except ChainError α)
    (h' : List (Network × Network)) : Prop :=
  h <+: h' ∧
    match o with
    | .ok a => R a h'
    | .error error => Explained link call action error h'

end

/-! ### The adapter -/

section

variable {P : SampraanIdentityRegistry.Call → Prop} {call : SampraanIdentityRegistry.Call}
  {action : String} {h : List (Network × Network)} {α β : Type}

theorem told_before {error : ChainError} {s t : Network} (hs : Speaks s error) :
    Explained link call action error (h ++ [(s, t)]) :=
  .told (passed_now (.inl hs))

/-- An attempt that goes on after another. -/
theorem Attempts.bind {R : α → List (Network × Network) → Prop}
    {R' : β → List (Network × Network) → Prop} {p : Promise α} {k : α → Promise β}
    (hp : p.outcome.Yields (fun _ => Effect link P) (Attempts link call action R h) h)
    (hk : ∀ a h', h <+: h' → R a h' → (k a).outcome.Yields (fun _ => Effect link P)
      (Attempts link call action R' h') h') :
    (p >>= k).outcome.Yields (fun _ => Effect link P) (Attempts link call action R' h) h := by
  rw [Async.outcome_bind]
  apply hp.bind
  rintro (error | a) h' ⟨hh, ho⟩
  · exact .fulfilled ⟨hh, ho⟩
  · exact (hk a h' hh ho).weaken fun o h'' ho' => ⟨hh.trans ho'.1, ho'.2⟩

theorem ensureInitialized_yields : ensureInitialized.outcome.Yields (fun _ => Effect link P)
    (Attempts link call action (fun _ _ => True) h) h := by
  rw [ensureInitialized, Async.outcome_query_bind]
  apply Async.yields_query_bind fun _ => .rfl
  intro s
  cases hs : s.initialization with
  | none => exact .fulfilled ⟨List.prefix_append _ _, trivial⟩
  | some told => exact .fulfilled ⟨List.prefix_append _ _, told_before (.inl hs)⟩

theorem view_obeys (f : Chain → α) : (view f).Obeys (fun _ => True) (Effect link P) := by
  apply Async.Obeys.bind
  · exact Async.obeys_query fun _ => .rfl
  rintro ⟨_ | error, a⟩
  · exact Async.obeys_pure _
  · exact Async.obeys_throw _

theorem estimate_explains {s t : Network} {error : ChainError} (hs : estimate link call s = some error) :
    Explained link call action error (h ++ [(s, t)]) := by
  unfold estimate at hs
  cases hrefusal : s.refusal with
  | some told =>
    simp only [hrefusal, Option.some.injEq] at hs
    exact told_before (.inr (.inl (hs ▸ hrefusal)))
  | none =>
    cases hrun : runNow link s call with
    | ok chain => simp [hrefusal, hrun] at hs
    | error revert =>
      simp only [hrefusal, hrun, Option.some.injEq] at hs
      exact .reverted revert hs.symm (passed_now hrun)

theorem broadcast_sends {s : Network} {k : ℕ} (hs : (broadcast call s).1 = .ok k) :
    s.pool.length = k ∧ (broadcast call s).2 = take call s := by
  unfold broadcast at hs ⊢
  cases hrefusal : s.refusal with
  | some told => simp [hrefusal] at hs
  | none =>
    cases hlost : s.lostAnswer with
    | some told => simp [hrefusal, hlost] at hs
    | none =>
      simp only [hrefusal, hlost, Except.ok.injEq] at hs ⊢
      exact ⟨hs, trivial⟩

theorem broadcast_tells {s : Network} {error : ChainError} (hs : (broadcast call s).1 = .error error) :
    Speaks s error := by
  unfold broadcast at hs
  cases hrefusal : s.refusal with
  | some told =>
    simp only [hrefusal, Except.error.injEq] at hs
    exact .inr (.inl (hs ▸ hrefusal))
  | none =>
    cases hlost : s.lostAnswer with
    | some told =>
      simp only [hrefusal, hlost, Except.error.injEq] at hs
      exact .inr (.inr (.inl (hs ▸ hlost)))
    | none => simp [hrefusal, hlost] at hs

theorem send_yields (hcall : P call) : (send link call).outcome.Yields (fun _ => Effect link P)
    (Attempts link call action (Sent call) h) h := by
  rw [send, Async.outcome_query_bind]
  apply Async.yields_query_bind fun _ => .rfl
  intro s
  cases hs : estimate link call s with
  | some told => exact .fulfilled ⟨List.prefix_append _ _, estimate_explains hs⟩
  | none =>
    rw [Async.outcome_statement_bind]
    apply Async.yields_statement_bind (broadcast_effect hcall)
    intro s'
    have hh : h <+: h ++ [(s, s)] ++ [(s', (broadcast call s').2)] :=
      (List.prefix_append _ _).trans (List.prefix_append _ _)
    cases hs' : (broadcast call s').1 with
    | ok k => exact .fulfilled ⟨hh, passed_now (broadcast_sends hs')⟩
    | error told => exact .fulfilled ⟨hh, told_before (broadcast_tells hs')⟩

theorem awaitEvidence_yields (call : SampraanIdentityRegistry.Call) (k : ℕ) :
    (awaitEvidence link k action).outcome.Yields (fun _ => Effect link P)
      (Attempts link call action (Mined k) h) h := by
  rw [awaitEvidence, Async.outcome_statement_bind]
  apply Async.yields_statement_bind (wait_effect k)
  intro s
  have hh : h <+: h ++ [(s, (wait link k s).2)] := List.prefix_append _ _
  unfold wait at hh ⊢
  cases hrefusal : s.refusal with
  | some told => exact .fulfilled ⟨List.prefix_append _ _, told_before (.inr (.inl hrefusal))⟩
  | none =>
    simp only
    cases htx : (mine link k s).pool[k]? with
    | none => exact .fulfilled ⟨List.prefix_append _ _, .unmined rfl⟩
    | some tx =>
      cases hreceipt : tx.receipt with
      | none =>
        simp only [Option.bind_some, hreceipt]
        exact .fulfilled ⟨List.prefix_append _ _, .unmined rfl⟩
      | some receipt =>
        simp only [Option.bind_some, hreceipt]
        cases hsucceeded : receipt.succeeded with
        | true =>
          exact .fulfilled ⟨List.prefix_append _ _,
            passed_now ⟨tx, receipt, htx, hreceipt, hsucceeded, rfl⟩⟩
        | false =>
          refine .fulfilled ⟨List.prefix_append _ _, .told (passed_now (.inr ?_))⟩
          exact .inr (.inr (.inr ⟨tx, List.mem_of_getElem? htx, receipt, action, hreceipt, rfl⟩))

theorem submit_yields (hcall : P call) :
    (submit link call action).outcome.Yields (fun _ => Effect link P)
      (Attempts link call action (Evidenced call) h) h := by
  apply Attempts.bind (send_yields hcall)
  intro k h' _ hsent
  apply (awaitEvidence_yields call k).weaken
  rintro (error | evidence) h'' ⟨hh, ho⟩
  · exact ⟨hh, ho⟩
  · exact ⟨hh, k, hsent.mono hh, ho⟩

theorem enqueueSubmit_yields {R : α → List (Network × Network) → Prop} {task : Promise α}
    (htask : ∀ h', task.outcome.Yields (fun _ => Effect link P) (Attempts link call action R h') h') :
    (enqueueSubmit task).outcome.Yields (fun _ => Effect link P) (Attempts link call action R h) h := by
  change (task.recover _).outcome.Yields _ _ _
  rw [Async.outcome_recover]
  apply (htask h).bind
  rintro (error | a) h' ⟨hh, ho⟩
  · change (if isNonceError error.thrown then task else throw error).outcome.Yields _ _ _
    rw [Async.outcome_ite]
    apply Async.Yields.ite
    · intro _
      exact (htask h').weaken fun o h'' ho' => ⟨hh.trans ho'.1, ho'.2⟩
    · intro _
      exact .fulfilled ⟨hh, ho⟩
  · exact .fulfilled ⟨hh, ho⟩

theorem registerIdentity_yields {did walletAddress : String}
    (hcall : P (registration env link did walletAddress)) :
    (registerIdentity env link did walletAddress).outcome.Yields (fun _ => Effect link P)
      (Attempts link (registration env link did walletAddress) "IDENTITY_REGISTER"
        (Evidenced (registration env link did walletAddress)) h) h := by
  apply Attempts.bind ensureInitialized_yields
  intro _ h' _ _
  exact enqueueSubmit_yields fun h'' => submit_yields hcall

/-- The evidence of the registration, or else an error that reads as if there had been one. -/
def RegistersOnce (link : Link) (call : SampraanIdentityRegistry.Call)
    (o : Option TransactionEvidence) (h : List (Network × Network)) : Prop :=
  match o with
  | some evidence => Evidenced call evidence h
  | none => ∃ error, LooksRegistered error ∧ Explained link call "IDENTITY_REGISTER" error h

theorem registerOnce_yields {did walletAddress : String}
    (hcall : P (registration env link did walletAddress)) :
    (registerOnce env link did walletAddress).Yields (fun _ => Effect link P)
      (fun o h' => h <+: h' ∧ RegistersOnce link (registration env link did walletAddress) o h') h := by
  refine (Async.Yields.of_outcome (R := fun o h' => h <+: h' ∧ ∀ a, o = .ok a →
    RegistersOnce link (registration env link did walletAddress) a h') ?_).weaken
      fun a h' ho => ⟨ho.1, ho.2 a rfl⟩
  change (Async.recover (registerIdentity env link did walletAddress >>= fun e => pure (some e))
    _).outcome.Yields _ _ _
  rw [Async.outcome_recover, Async.outcome_bind, Async.bind_assoc]
  apply (registerIdentity_yields hcall).bind
  rintro (error | evidence) h' ⟨hh, ho⟩
  · simp only [Async.pure_eq, Async.fulfilled_bind, Async.outcome_ite]
    apply Async.Yields.ite
    · intro hlooks
      refine .fulfilled ⟨hh, fun a ha => ?_⟩
      obtain rfl := Except.ok.inj ha
      exact ⟨error, hlooks, ho⟩
    · intro _
      exact .fulfilled ⟨hh, fun a ha => by cases ha⟩
  · refine .fulfilled ⟨hh, fun a ha => ?_⟩
    obtain rfl := Except.ok.inj ha
    exact ho

theorem ensureInitialized_obeys : ensureInitialized.Obeys (fun _ => True) (Effect link P) := by
  apply Async.Obeys.bind
  · exact Async.obeys_query fun _ => .rfl
  rintro (_ | error)
  · exact Async.obeys_pure _
  · exact Async.obeys_throw _

theorem retried_yields {R : α → List (Network × Network) → Prop} {task : Promise α}
    (htask : ∀ h', task.Yields (fun _ => Effect link P) R h') :
    (enqueueSubmit task).Yields (fun _ => Effect link P) R h := by
  apply (htask h).recover
  intro error h' _
  apply Async.Yields.ite
  · intro _
    exact htask h'
  · intro _
    exact .rejected error h'

theorem evidence_yields (hcall : P call) :
    (submit link call action).Yields (fun _ => Effect link P) (Evidenced call) h :=
  (Async.Yields.of_outcome (submit_yields hcall)).weaken fun _ _ ho => ho.2

theorem verifyIdentityOnChain_yields {walletAddress reason : String}
    (hcall : ∀ reason, P (.verifyIdentity (link.address walletAddress) reason)) :
    (verifyIdentityOnChain link walletAddress reason).Yields (fun _ => Effect link P)
      (fun o h' => ∀ evidence, o = some evidence →
        ∃ reason, Evidenced (.verifyIdentity (link.address walletAddress) reason) evidence h') h := by
  apply (ensureInitialized_obeys.recalls (fun _ _ _ he => he) h).bind
  intro _ h₁ _
  apply ((view_obeys _).recalls (fun _ _ _ he => he) h₁).bind
  intro current h₂ _
  apply Async.Yields.ite
  · intro _
    exact .fulfilled fun evidence he => by cases he
  · intro _
    apply (retried_yields fun h' => evidence_yields (hcall _)).bind
    intro evidence h₃ hevidence
    refine .fulfilled fun evidence' he => ?_
    obtain rfl := Option.some.inj he
    exact ⟨_, hevidence⟩

/-- What a status transaction for the wallet may be. -/
inductive ChangesStatus (wallet : Address) (status : Backend.IdentityStatus) :
    SampraanIdentityRegistry.Call → Prop
  | suspend (hstatus : status ≠ .active) (reason : String) :
    ChangesStatus wallet status (.suspendIdentity wallet reason)
  | verify (hstatus : status = .active) (reason : String) :
    ChangesStatus wallet status (.verifyIdentity wallet reason)
  | reactivate (hstatus : status = .active) (reason : String) :
    ChangesStatus wallet status (.reactivateIdentity wallet reason)

theorem statusChange_ok {walletAddress reason : String} {status : Backend.IdentityStatus}
    {current : IdentityStatus} (h : statusChange link walletAddress reason status current = .ok call) :
    ChangesStatus (link.address walletAddress) status call := by
  unfold statusChange at h
  split at h
  · cases h
  · split at h
    · obtain rfl := Except.ok.inj h
      exact .suspend (And.left ‹_›) reason
    · split at h
      · split at h
        · obtain rfl := Except.ok.inj h
          exact .verify ‹_› reason
        · obtain rfl := Except.ok.inj h
          exact .reactivate ‹_› reason
      · cases h

theorem setIdentityStatus_yields {walletAddress : String} {status : Backend.IdentityStatus}
    {reason : Option String}
    (hcall : ∀ call, ChangesStatus (link.address walletAddress) status call → P call) :
    (setIdentityStatus link walletAddress status reason).Yields (fun _ => Effect link P)
      (fun evidence h' => ∃ call, ChangesStatus (link.address walletAddress) status call ∧
        Evidenced call evidence h') h := by
  apply (ensureInitialized_obeys.recalls (fun _ _ _ he => he) h).bind
  intro _ h₁ _
  apply retried_yields
  intro h₂
  apply ((view_obeys _).recalls (fun _ _ _ he => he) h₂).bind
  intro current h₃ _
  cases hchange : statusChange link walletAddress
      (reasonOr reason s!"status change to {status.label}") status current with
  | error error => exact .rejected error h₃
  | ok call =>
    have hchanges := statusChange_ok hchange
    exact (evidence_yields (hcall call hchanges)).weaken fun evidence h' he => ⟨call, hchanges, he⟩

end

end Sampraan.Blockchain.Anchoring
