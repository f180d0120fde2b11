import Sampraan.Blockchain.AnchoringSteps
import Sampraan.Contracts.Roles

/-! What the calls that bring identities to the chain can do there, over every interleaving of them
with each other and with anybody's transactions. -/

namespace Sampraan.Blockchain.Anchoring

open Backend (Environment BesuConfig AnchorOutcome)
open Contracts Library
open Library.Async (Passed)

variable {env : Environment} {link : Link}

/-! ### What a transaction does to its wallet -/

section

variable {governance : Address} {roles : Roles} {msg : Msg} {wallet : Address} {reason : String}
  {s t : SampraanIdentityRegistry}

theorem run_verify_iff :
    SampraanIdentityRegistry.run governance roles msg s (.verifyIdentity wallet reason) = .ok t ↔
      roles identityAdminRole msg.sender = true ∧ reason ≠ "" ∧ s.status wallet = .pending ∧
        SampraanIdentityRegistry.transition msg wallet .verified reason s = .ok t := by
  simp only [SampraanIdentityRegistry.run, SampraanIdentityRegistry.verifyIdentity, revertIf_bind,
    SampraanIdentityRegistry.onlyIdentityAdmin, not_not]
  rfl

theorem run_verify (h : SampraanIdentityRegistry.run governance roles msg s
    (.verifyIdentity wallet reason) = .ok t) :
    s.status wallet = .pending ∧ SampraanIdentityRegistry.Transitions wallet .verified s t := by
  obtain ⟨-, -, hstatus, h⟩ := run_verify_iff.mp h
  exact ⟨hstatus, SampraanIdentityRegistry.transition_ok h⟩

theorem run_suspend_iff :
    SampraanIdentityRegistry.run governance roles msg s (.suspendIdentity wallet reason) = .ok t ↔
      roles identityAdminRole msg.sender = true ∧ reason ≠ "" ∧ s.status wallet = .verified ∧
        SampraanIdentityRegistry.transition msg wallet .suspended reason s = .ok t := by
  simp only [SampraanIdentityRegistry.run, SampraanIdentityRegistry.suspendIdentity, revertIf_bind,
    SampraanIdentityRegistry.onlyIdentityAdmin, not_not]
  rfl

theorem run_suspend (h : SampraanIdentityRegistry.run governance roles msg s
    (.suspendIdentity wallet reason) = .ok t) :
    s.status wallet = .verified ∧ SampraanIdentityRegistry.Transitions wallet .suspended s t := by
  obtain ⟨-, -, hstatus, h⟩ := run_suspend_iff.mp h
  exact ⟨hstatus, SampraanIdentityRegistry.transition_ok h⟩

theorem run_reactivate_iff :
    SampraanIdentityRegistry.run governance roles msg s (.reactivateIdentity wallet reason) = .ok t ↔
      roles identityAdminRole msg.sender = true ∧ reason ≠ "" ∧ s.status wallet = .suspended ∧
        SampraanIdentityRegistry.transition msg wallet .verified reason s = .ok t := by
  simp only [SampraanIdentityRegistry.run, SampraanIdentityRegistry.reactivateIdentity, revertIf_bind,
    SampraanIdentityRegistry.onlyIdentityAdmin, not_not]
  rfl

theorem run_reactivate (h : SampraanIdentityRegistry.run governance roles msg s
    (.reactivateIdentity wallet reason) = .ok t) :
    s.status wallet = .suspended ∧ SampraanIdentityRegistry.Transitions wallet .verified s t := by
  obtain ⟨-, -, hstatus, h⟩ := run_reactivate_iff.mp h
  exact ⟨hstatus, SampraanIdentityRegistry.transition_ok h⟩

end

/-- The steps of a wallet's status that a call can take. -/
inductive AnchorCall.Moves (call : AnchorCall) : IdentityStatus → IdentityStatus → Prop
  | register : Moves call .none .pending
  | verify : Moves call .pending .verified
  | suspend (change : Change) (hchange : call.change = some change) (hstatus : change.status ≠ .active) :
    Moves call .verified .suspended
  | reactivate (change : Change) (hchange : call.change = some change)
    (hstatus : change.status = .active) : Moves call .suspended .verified

/-- A transaction of the call changes the record of its wallet only. -/
structure AnchorCall.Changes (env : Environment) (link : Link) (call : AnchorCall)
    (s t : SampraanIdentityRegistry) : Prop where
  moves : call.Moves (s.status (walletOf env link call.did)) (t.status (walletOf env link call.did))
  others : ∀ w, w ≠ walletOf env link call.did → t.identities w = s.identities w

theorem changes_of_run {governance : Address} {roles : Roles} {msg : Msg} {call : AnchorCall}
    {tx : SampraanIdentityRegistry.Call} {s t : SampraanIdentityRegistry}
    (htx : call.Sends env link tx)
    (h : SampraanIdentityRegistry.run governance roles msg s tx = .ok t) :
    call.Changes env link s t := by
  have hmove {newStatus : IdentityStatus} (ht : SampraanIdentityRegistry.Transitions
      (walletOf env link call.did) newStatus s t)
      (hmoves : call.Moves (s.status (walletOf env link call.did)) newStatus) :
      call.Changes env link s t :=
    ⟨by rwa [ht.status], ht.toKeeps.identities⟩
  have hverify {reason : String} (h : SampraanIdentityRegistry.run governance roles msg s
      (.verifyIdentity (walletOf env link call.did) reason) = .ok t) : call.Changes env link s t := by
    obtain ⟨hstatus, ht⟩ := run_verify h
    exact hmove ht (hstatus ▸ .verify)
  cases htx with
  | anchors hanchors =>
    cases hanchors with
    | verifies reason => exact hverify h
    | registers =>
      obtain ⟨-, ht⟩ := SampraanIdentityRegistry.registerIdentity_ok h
      refine ⟨?_, ht.toKeeps.identities⟩
      have hbefore : s.status (walletOf env link call.did) = .none := ht.fresh.1
      have hafter : t.status (walletOf env link call.did) = .pending := ht.record.1
      rw [hbefore, hafter]
      exact .register
  | changes change hchange hchanges =>
    cases hchanges with
    | verify hstatus reason => exact hverify h
    | suspend hstatus reason =>
      obtain ⟨hbefore, ht⟩ := run_suspend h
      exact hmove ht (hbefore ▸ .suspend change hchange hstatus)
    | reactivate hstatus reason =>
      obtain ⟨hbefore, ht⟩ := run_reactivate h
      exact hmove ht (hbefore ▸ .reactivate change hchange hstatus)

/-! ### The answers -/

/-- Only the contracts' AlreadyRegistered() reads as such among the reverts. -/
def Telling (link : Link) : Prop :=
  ∀ revert, LooksRegistered (link.revertError revert) → revert = .alreadyRegistered

/-- No error of the node reads so. -/
def Plain (n : Network) : Prop := ∀ error, Speaks n error → ¬ LooksRegistered error

/-- The wallet of the DID has been registered, or another with the same digest. -/
def Known (env : Environment) (link : Link) (did : String) (s : SampraanIdentityRegistry) : Prop :=
  s.status (walletOf env link did) ≠ .none ∨ s.didOwners (keccakText env link did) ≠ 0

theorem Lasts.known {did : String} {s t : SampraanIdentityRegistry} (h : Lasts s t)
    (hs : Known env link did s) : Known env link did t :=
  hs.imp (h.registered _) (h.owned _)

/-- The checks of `registerIdentity` that revert so. -/
theorem known_of_revert {n : Network} {did : String}
    (h : runNow link n (registration env link did (walletText env did)) = .error .alreadyRegistered) :
    Known env link did n.chain.identityRegistry := by
  rw [runNow, Chain.run] at h
  cases hrun : SampraanIdentityRegistry.run link.governance n.chain.accessControl.hasRole
      { sender := link.operator, timestamp := n.timestamp } n.chain.identityRegistry
      (registration env link did (walletText env did)) with
  | ok t =>
    rw [hrun] at h
    cases h
  | error revert =>
    rw [hrun] at h
    obtain rfl := Except.error.inj h
    simp only [registration, SampraanIdentityRegistry.run, SampraanIdentityRegistry.registerIdentity,
      SampraanIdentityRegistry.onlyIdentityAdmin, revertIf_bind_error] at hrun
    rcases hrun with ⟨-, hrun⟩ | ⟨-, ⟨-, hrun⟩ | ⟨-, ⟨-, hrun⟩ | ⟨-, ⟨hstatus, -⟩ | ⟨-, ⟨howner, -⟩ | ⟨-, hrun⟩⟩⟩⟩⟩
    · cases hrun
    · cases hrun
    · cases hrun
    · exact .inl hstatus
    · exact .inr howner
    · cases hrun

theorem known_of_explained {did : String} {error : ChainError} {h : List (Network × Network)}
    (htelling : Telling link) (hplain : ∀ e ∈ h, Plain e.1 ∧ Plain e.2) (hlooks : LooksRegistered error)
    (hexplained : Explained link (registration env link did (walletText env did)) "IDENTITY_REGISTER"
      error h) : ∃ e ∈ h, Known env link did e.1.chain.identityRegistry := by
  cases hexplained with
  | reverted revert he hrun =>
    obtain ⟨e, hmem, -, hrun⟩ := hrun.mem
    obtain rfl := htelling revert (he ▸ hlooks)
    exact ⟨e, hmem, known_of_revert hrun⟩
  | told hspeaks =>
    obtain ⟨e, hmem, -, hspeaks⟩ := hspeaks.mem
    rcases hspeaks with hspeaks | hspeaks
    · exact absurd hlooks ((hplain e hmem).1 error hspeaks)
    · exact absurd hlooks ((hplain e hmem).2 error hspeaks)
  | unmined he =>
    exfalso
    rw [he] at hlooks
    revert hlooks
    unfold LooksRegistered
    decide +kernel

/-- The transactions that an answer ANCHORED stands for. -/
def AnchorCall.Achieves (env : Environment) (link : Link) (call : AnchorCall)
    (tx : SampraanIdentityRegistry.Call) : Prop :=
  match call.change with
  | none => Anchors env link call.did tx
  | some change => ChangesStatus (walletOf env link call.did) change.status tx

/-- The status that they leave. -/
def AnchorCall.Reaches (call : AnchorCall) (status : IdentityStatus) : Prop :=
  match call.change with
  | none => status = .pending ∨ status = .verified
  | some change => status = if change.status = .active then .verified else .suspended

/-- The answer of an anchor names its transaction. -/
structure Names (env : Environment) (did : String) (a : AnchorResult) (receipt : Receipt) : Prop where
  walletAddress : a.walletAddress = some (walletText env did)
  transactionHash : a.transactionHash = some receipt.hash
  blockNumber : a.blockNumber = some receipt.blockNumber

/-- The call has sent a transaction that the chain has committed, and that leaves the wallet in the
status that the call is for. -/
structure Achieved (env : Environment) (link : Link) (c : AnchorConfig) (i : ℕ) (call : AnchorCall)
    (receipt : Receipt) : Prop where
  sent : ∃ k tx, SentBy c i k ∧ c.shared.pool[k]? = some tx ∧ tx.receipt = some receipt ∧
    receipt.succeeded = true ∧ ∃ e ∈ c.shared.blocks, e.1.1.sender = link.operator ∧
      e.1.2 = .identityRegistry tx.call ∧
        call.Reaches (e.2.2.identityRegistry.status (walletOf env link call.did))
  registered : c.shared.chain.identityRegistry.status (walletOf env link call.did) ≠ .none

structure AnchoringSafe (env : Environment) (link : Link) (c : AnchorConfig) : Prop where
  committed : ∀ (k : ℕ) (tx : Transaction), c.shared.pool[k]? = some tx →
    ∃ i call p, c.threads i = some ⟨call, p⟩ ∧ SentBy c i k ∧ call.Sends env link tx.call ∧
      ∀ receipt, tx.receipt = some receipt → receipt.succeeded = true →
        ∃ e ∈ c.shared.blocks, e.1.1.sender = link.operator ∧ e.1.2 = .identityRegistry tx.call ∧
          call.Changes env link e.2.1.identityRegistry e.2.2.identityRegistry
  settled : ∀ (i : ℕ) (call : AnchorCall) (p : Promise (Option AnchorResult)),
    c.threads i = some ⟨call, p⟩ → p.Settled → ∃ o, p = .fulfilled o
  anchored : ∀ (i : ℕ) (call : AnchorCall) (a : AnchorResult), c.Returned i call (some a) →
    a.outcome = .anchored → ∃ receipt, Achieved env link c i call receipt ∧
      (call.change = none → Names env call.did a receipt)
  skipped : ∀ (i : ℕ) (call : AnchorCall) (a : AnchorResult), c.Returned i call (some a) →
    call.change = none → a.outcome = .skipped → (∀ e ∈ c.history i, Plain e.1 ∧ Plain e.2) →
      env.besu = none ∨ Known env link call.did c.shared.chain.identityRegistry
  audited : ∀ (i : ℕ) (call : AnchorCall) (a : AnchorResult), c.Returned i call (some a) →
    call.change = none → env.databaseConfigured = true →
      (∃ e ∈ c.history i, e.1.databaseUp = false) ∨ anchorAuditRow call.did a ∈ c.shared.auditEvents

theorem anchorIdentity_neverRejects (did displayName : String) :
    (anchorIdentity env link did displayName).NeverRejects := by
  apply Async.NeverRejects.bind
  · unfold attemptAnchor
    cases env.besu with
    | none => exact .fulfilled _
    | some besu => exact Async.neverRejects_recover _ fun _ => .fulfilled _
  · intro a
    apply Async.NeverRejects.bind
    · exact .ite (Async.neverRejects_statement _) (.fulfilled _)
    · exact fun _ => .fulfilled a

theorem body_neverRejects (call : AnchorCall) : (call.body env link).NeverRejects := by
  obtain ⟨did, displayName, _ | ⟨reason | reason | reason | status⟩⟩ := call
  · exact (anchorIdentity_neverRejects did displayName).bind fun _ => .fulfilled _
  · exact (Async.neverRejects_recover _ fun _ => .fulfilled _).bind fun _ => .fulfilled _
  · exact (Async.neverRejects_recover _ fun _ => .fulfilled _).bind fun _ => .fulfilled _
  · exact (Async.neverRejects_recover _ fun _ => .fulfilled _).bind fun _ => .fulfilled _
  · change (anchorStatusChange env link did displayName status).NeverRejects
    unfold anchorStatusChange
    cases env.besu with
    | none => exact .fulfilled _
    | some besu => exact (Async.neverRejects_recover _ fun _ => .fulfilled _).bind fun _ => .fulfilled _

section

variable {n₀ : Network} {c : AnchorConfig}

theorem run_of_block {n : Network} (h : Sound link n) {e : (Msg × Chain.Call) × Chain × Chain}
    (he : e ∈ n.blocks) {tx : SampraanIdentityRegistry.Call} (hcall : e.1.2 = .identityRegistry tx) :
    SampraanIdentityRegistry.run link.governance e.2.1.accessControl.hasRole e.1.1
        e.2.1.identityRegistry tx = .ok e.2.2.identityRegistry := by
  obtain ⟨accessControl, hr⟩ := h.run
  obtain ⟨-, -, hrun⟩ := hr.mem (I := fun _ => True) trivial (fun _ _ _ _ _ _ => trivial) he
  have hdoes := Chain.run_does (show Chain.run link.governance e.1.1 e.2.1 e.1.2 = .ok e.2.2 from hrun)
  rw [hcall] at hdoes
  exact hdoes.1

theorem reaches_of_run {governance : Address} {roles : Roles} {msg : Msg} {call : AnchorCall}
    {tx : SampraanIdentityRegistry.Call} {s t : SampraanIdentityRegistry}
    (htx : call.Achieves env link tx) (h : SampraanIdentityRegistry.run governance roles msg s tx = .ok t) :
    call.Reaches (t.status (walletOf env link call.did)) := by
  obtain ⟨did, displayName, _ | change⟩ := call
  · cases htx with
    | registers => exact .inl (SampraanIdentityRegistry.registerIdentity_ok h).2.record.1
    | verifies reason => exact .inr (run_verify h).2.status
  · cases htx with
    | suspend hstatus reason => exact ((run_suspend h).2.status).trans (if_neg hstatus).symm
    | verify hstatus reason => exact ((run_verify h).2.status).trans (if_pos hstatus).symm
    | reactivate hstatus reason => exact ((run_reactivate h).2.status).trans (if_pos hstatus).symm

/-- What a call of the contracts has left is still registered. -/
theorem lasts_of_block {n : Network} (h : Sound link n) {e : (Msg × Chain.Call) × Chain × Chain}
    (he : e ∈ n.blocks) : Lasts e.2.2.identityRegistry n.chain.identityRegistry := by
  obtain ⟨accessControl, hr⟩ := h.run
  obtain ⟨before, after, hblocks⟩ := List.append_of_mem he
  rw [hblocks] at hr
  obtain ⟨-, -, -, hafter⟩ := hr.split
  exact hafter.monotone (R := fun s t => Lasts s.identityRegistry t.identityRegistry)
    (I := fun _ => True) (fun s => .refl _) (fun _ _ _ => Lasts.trans) trivial
    (fun _ _ _ _ _ _ => trivial) fun _ _ _ _ _ hrun => lasts_of_run hrun

theorem AnchorCall.Reaches.ne_none {call : AnchorCall} {status : IdentityStatus}
    (h : call.Reaches status) : status ≠ .none := by
  rintro rfl
  unfold AnchorCall.Reaches at h
  split at h
  · simp at h
  · split at h <;> cases h

theorem pool_since (hn₀ : Sound link n₀) (hc : (anchorSystem env link).Reachable n₀ c) {i : ℕ}
    {e : Network × Network} (he : e ∈ c.history i) {k : ℕ} {tx : Transaction}
    (htx : e.2.pool[k]? = some tx) : ∃ tx', c.shared.pool[k]? = some tx' ∧ tx.Later tx' :=
  (advances_since hn₀ hc (Config.mem_history.mp he)).2.pool k tx htx

/-- What the past of a call shows of a transaction still holds. -/
theorem achieved_of_evidenced (hn₀ : Sound link n₀) (hc : (anchorSystem env link).Reachable n₀ c) {i : ℕ}
    {call : AnchorCall} {tx : SampraanIdentityRegistry.Call} {evidence : TransactionEvidence}
    (htx : call.Achieves env link tx) (hevidence : Evidenced tx evidence (c.history i)) :
    ∃ receipt, Achieved env link c i call receipt ∧
      evidence = ⟨receipt.hash, receipt.blockNumber⟩ := by
  obtain ⟨k, hsent, hmined⟩ := hevidence
  obtain ⟨e, he, -, hlength, htake⟩ := hsent.mem
  obtain ⟨e', he', -, tx', receipt, htx', hreceipt, hsucceeded, rfl⟩ := hmined.mem
  have htaken : e.2.pool[k]? = some { call := tx, hash := e.1.upcomingHash, receipt := none } := by
    simp [htake, take, ← hlength]
  have hsentBy : SentBy c i k := by
    refine ⟨(i, e), Config.mem_history.mp he, rfl, hlength, ?_⟩
    exact (List.getElem?_eq_some_iff.mp htaken).1
  -- The transaction that was taken is the one that was mined.
  obtain ⟨now, hnow, hlater⟩ := pool_since hn₀ hc he htaken
  obtain ⟨now', hnow', hlater'⟩ := pool_since hn₀ hc he' htx'
  obtain rfl := Option.some.inj (hnow.symm.trans hnow')
  have hcall : now.call = tx := hlater.call
  have hgiven : now.receipt = some receipt := hlater'.receipt receipt hreceipt
  have hsound := (anchor_discipline env link).shared_inv hn₀ hc
  obtain ⟨block, hblock, hsender, hblockCall⟩ :=
    hsound.mined now (List.mem_of_getElem? hnow) receipt hgiven hsucceeded
  have hreaches : call.Reaches (block.2.2.identityRegistry.status (walletOf env link call.did)) := by
    have hrun := run_of_block hsound hblock hblockCall
    rw [hcall] at hrun
    exact reaches_of_run htx hrun
  refine ⟨receipt, ⟨?_, (lasts_of_block hsound hblock).registered _ hreaches.ne_none⟩, rfl⟩
  exact ⟨k, now, hsentBy, hnow, hgiven, hsucceeded, block, hblock, hsender, hblockCall, hreaches⟩

end

/-! ### A run -/

def sampleLink : Link where
  governance := 0x60
  operator := 0xA11CE
  address := fun _ => 0xB0B
  bytes32 := fun _ => 0xD1D
  revertError := fun revert =>
    if revert = .alreadyRegistered then
      { plainError "execution reverted (data=0x3a81d6fc)" with code := some (.text "CALL_EXCEPTION") }
    else { plainError "execution reverted" with code := some (.text "CALL_EXCEPTION") }

def freshNetwork : Network where
  chain := .deploy SampraanAccessControl.sampleState
  blocks := []
  pool := []
  initialization := none
  refusal := none
  lostAnswer := none
  timestamp := 1700000000
  blockNumber := 7
  upcomingHash := "0x7a"
  databaseUp := true
  auditEvents := []

theorem telling_sampleLink : Telling sampleLink := by
  intro revert hlooks
  by_contra hne
  simp only [sampleLink, if_neg hne] at hlooks
  revert hlooks
  unfold LooksRegistered
  decide +kernel

def anchorRun (calls : List (AnchorCall × ℕ)) : Option AnchorConfig :=
  (anchorSystem Backend.sampleEnvironment sampleLink).exec (fun _ _ => True)
    (Config.initial freshNetwork) (System.sequence 0 calls)

/-- An identity is anchored and verified, and suspended by an administrator. -/
def suspendedHolder : List (AnchorCall × ℕ) :=
  [({ did := "did:sampraan:holder", displayName := "Holder", change := none }, 10),
    ({ did := "did:sampraan:holder", displayName := "Holder", change := some (.suspend "papers lost") },
      10)]

end Sampraan.Blockchain.Anchoring
