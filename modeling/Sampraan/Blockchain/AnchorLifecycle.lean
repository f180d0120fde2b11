import Sampraan.Blockchain.AnchoringSafety

/-! What a call comes to when the node answers and nothing comes between its statements. -/

namespace Sampraan.Blockchain.Anchoring

open Backend (Environment BesuConfig AnchorOutcome deriveIdentityWallet)
open Contracts Library

variable {env : Environment} {link : Link}

/-! ### Statuses -/

/-- An anchor registers the wallet, if its digest is free, and verifies it. -/
def provisioned (free : Prop) [Decidable free] : IdentityStatus → IdentityStatus
  | .none => if free then .verified else .none
  | .pending => .verified
  | current => current

/-- What asking for the status makes of the one on the chain. -/
def changed (status : Backend.IdentityStatus) (current : IdentityStatus) : IdentityStatus :=
  if status = .active then
    match current with
    | .pending => .verified
    | .suspended => .verified
    | current => current
  else
    match current with
    | .verified => .suspended
    | current => current

/-! ### Transactions -/

/-- The node answers, and the chain takes `room` more changes of the wallet's status from the
operator. -/
structure Ready (link : Link) (wallet : Address) (room : ℕ) (n : Network) : Prop where
  initialization : n.initialization = none
  refusal : n.refusal = none
  lostAnswer : n.lostAnswer = none
  admin : n.chain.accessControl.hasRole identityAdminRole link.operator = true
  count : n.chain.identityRegistry.lifecycleCount wallet + room < 2 ^ 256

/-- Nothing but the chain has changed that a call reads. -/
structure SameNode (s t : Network) : Prop where
  initialization : t.initialization = s.initialization
  refusal : t.refusal = s.refusal
  lostAnswer : t.lostAnswer = s.lostAnswer

section

variable {n : Network} {wallet : Address} {room : ℕ} {call : SampraanIdentityRegistry.Call}
  {action : String} {chain : Chain} {revert : Revert}

theorem runNow_ok {t : SampraanIdentityRegistry} (h : SampraanIdentityRegistry.run link.governance
      n.chain.accessControl.hasRole { sender := link.operator, timestamp := n.timestamp }
      n.chain.identityRegistry call = .ok t) :
    runNow link n call = .ok { n.chain with identityRegistry := t } := by
  rw [runNow, Chain.run, h]
  rfl

theorem runNow_error (h : SampraanIdentityRegistry.run link.governance
      n.chain.accessControl.hasRole { sender := link.operator, timestamp := n.timestamp }
      n.chain.identityRegistry call = .error revert) : runNow link n call = .error revert := by
  rw [runNow, Chain.run, h]
  rfl

theorem submit_run_ok (action : String) (hready : Ready link wallet room n)
    (hrun : runNow link n call = .ok chain) :
    ∃ evidence t, (submit link call action).run n = (.ok evidence, t) ∧ t.chain = chain ∧
      SameNode n t := by
  have hsend : (send link call).run n = (.ok n.pool.length, take call n) := by
    simp [send, estimate, broadcast, hready.refusal, hready.lostAnswer, hrun]
  have hpool : (take call n).pool[n.pool.length]? =
      some { call := call, hash := n.upcomingHash, receipt := none } := by
    simp [take]
  have hrun' : runNow link (take call n) call = .ok chain := hrun
  have hmine : mine link n.pool.length (take call n) = { take call n with
      chain := chain
      blocks := n.blocks ++ [(({ sender := link.operator, timestamp := n.timestamp },
        .identityRegistry call), n.chain, chain)]
      pool := give n.pool.length { call := call, hash := n.upcomingHash, receipt := none } true
        (take call n) } := by
    simp only [mine, hpool, hrun']
    rfl
  have hwait : wait link n.pool.length (take call n) =
      (.ok (some ⟨n.upcomingHash, true, n.blockNumber⟩), mine link n.pool.length (take call n)) := by
    have hrefusal : (take call n).refusal = none := hready.refusal
    simp only [wait, hrefusal]
    rw [hmine]
    simp [give, take]
  refine ⟨⟨n.upcomingHash, n.blockNumber⟩, mine link n.pool.length (take call n), ?_, ?_, ?_⟩
  · rw [submit, Async.run_bind_ok hsend]
    simp [awaitEvidence, hwait]
  · rw [hmine]
  · rw [hmine]
    exact ⟨rfl, rfl, rfl⟩

theorem submit_run_error (hready : Ready link wallet room n)
    (hrun : runNow link n call = .error revert) :
    (submit link call action).run n = (.error (link.revertError revert), n) := by
  have hsend : (send link call).run n = (.error (link.revertError revert), n) := by
    simp [send, estimate, hready.refusal, hrun]
  rw [submit, Async.run_bind_error hsend]

/-- The second try of a request that failed without a trace fails so too. -/
theorem enqueueSubmit_run_error {α : Type} {task : Promise α} {error : ChainError}
    (htask : task.run n = (.error error, n)) : (enqueueSubmit task).run n = (.error error, n) := by
  change (Async.recover task _).run n = _
  rw [Async.run_recover, htask]
  dsimp only
  split
  · exact htask
  · rfl

theorem ensureInitialized_run (hready : Ready link wallet room n) :
    ensureInitialized.run n = (.ok (), n) := by
  simp [ensureInitialized, hready.initialization]

theorem view_run {α : Type} (f : Chain → α) (hready : Ready link wallet room n) :
    (view f).run n = (.ok (f n.chain), n) := by
  simp [view, hready.refusal]

/-- Only the record of the wallet may have changed. -/
def KeepsOthers (wallet : Address) (s t : Network) : Prop :=
  ∀ w, w ≠ wallet → t.chain.identityRegistry.identities w = s.chain.identityRegistry.identities w

/-- Run alone, it gives the answer and leaves the wallet in the status. -/
def Leaves {α : Type} (link : Link) (wallet : Address) (room : ℕ) (status : IdentityStatus)
    (n : Network) (p : Promise α) (a : α) : Prop :=
  ∃ t, p.run n = (.ok a, t) ∧ Ready link wallet room t ∧
    t.chain.identityRegistry.status wallet = status ∧ KeepsOthers wallet n t

section

variable {α β : Type} {p q : Promise α} {k : α → Promise β} {a : α} {b : β} {room' : ℕ}
  {status status' : IdentityStatus}

theorem Leaves.of_run (hpq : p.run n = q.run n) (h : Leaves link wallet room status n q a) :
    Leaves link wallet room status n p a := by
  obtain ⟨t, hrun, hrest⟩ := h
  exact ⟨t, hpq.trans hrun, hrest⟩

theorem leaves_pure (hready : Ready link wallet room n) (a : α) :
    Leaves link wallet room (n.chain.identityRegistry.status wallet) n (pure a) a :=
  ⟨n, rfl, hready, rfl, fun _ _ => rfl⟩

theorem Leaves.after {t : Network} (hrun : p.run n = (.ok a, t)) (hothers : KeepsOthers wallet n t)
    (hk : Leaves link wallet room status t (k a) b) : Leaves link wallet room status n (p >>= k) b := by
  obtain ⟨u, hrun', hready, hstatus, hothers'⟩ := hk
  exact ⟨u, (Async.run_bind_ok hrun).trans hrun', hready, hstatus,
    fun w hw => (hothers' w hw).trans (hothers w hw)⟩

theorem Leaves.bind (hp : Leaves link wallet room status n p a)
    (hk : ∀ t, Ready link wallet room t → t.chain.identityRegistry.status wallet = status →
      Leaves link wallet room' status' t (k a) b) :
    Leaves link wallet room' status' n (p >>= k) b := by
  obtain ⟨t, hrun, hready, hstatus, hothers⟩ := hp
  exact Leaves.after hrun hothers (hk t hready hstatus)

theorem Leaves.recover {f : ChainError → Promise α} (h : Leaves link wallet room status n p a) :
    Leaves link wallet room status n (tryCatch p f) a := by
  obtain ⟨t, hrun, hrest⟩ := h
  exact ⟨t, Async.run_recover_ok hrun, hrest⟩

end

/-- The request is mined, and leaves the wallet in the status. -/
def Carries (link : Link) (wallet : Address) (room : ℕ) (status : IdentityStatus) (n : Network)
    (p : Promise TransactionEvidence) : Prop :=
  ∃ evidence, Leaves link wallet room status n p evidence

theorem Carries.of_run {status : IdentityStatus} {p q : Promise TransactionEvidence}
    (hpq : p.run n = q.run n) (h : Carries link wallet room status n q) :
    Carries link wallet room status n p := by
  obtain ⟨evidence, h⟩ := h
  exact ⟨evidence, h.of_run hpq⟩

theorem Carries.enqueueSubmit {status : IdentityStatus} {task : Promise TransactionEvidence}
    (h : Carries link wallet room status n task) :
    Carries link wallet room status n (enqueueSubmit task) := by
  obtain ⟨evidence, h⟩ := h
  exact ⟨evidence, h.recover⟩

/-- The request fails without a trace. -/
def Fails (n : Network) (p : Promise TransactionEvidence) : Prop :=
  ∃ error, p.run n = (.error error, n)

theorem Fails.of_run {p q : Promise TransactionEvidence} (hpq : p.run n = q.run n) (h : Fails n q) :
    Fails n p := by
  obtain ⟨error, h⟩ := h
  exact ⟨error, hpq.trans h⟩

theorem Fails.enqueueSubmit {task : Promise TransactionEvidence} (h : Fails n task) :
    Fails n (enqueueSubmit task) := by
  obtain ⟨error, h⟩ := h
  exact ⟨error, enqueueSubmit_run_error h⟩

theorem submit_carries (action : String) {room' : ℕ} {t : SampraanIdentityRegistry}
    (hready : Ready link wallet room n)
    (h : SampraanIdentityRegistry.run link.governance n.chain.accessControl.hasRole
      { sender := link.operator, timestamp := n.timestamp } n.chain.identityRegistry call = .ok t)
    (hcount : t.lifecycleCount wallet + room' < 2 ^ 256)
    (hothers : ∀ w, w ≠ wallet → t.identities w = n.chain.identityRegistry.identities w) :
    Carries link wallet room' (t.status wallet) n (submit link call action) := by
  obtain ⟨evidence, t', hrun, hchain, hsame⟩ := submit_run_ok action hready (runNow_ok h)
  refine ⟨evidence, t', hrun, ?_, ?_, ?_⟩
  · constructor
    · rw [hsame.initialization, hready.initialization]
    · rw [hsame.refusal, hready.refusal]
    · rw [hsame.lostAnswer, hready.lostAnswer]
    · rw [hchain]
      exact hready.admin
    · rw [hchain]
      exact hcount
  · rw [hchain]
  · intro w hw
    rw [hchain]
    exact hothers w hw

theorem transition_runs (msg : Msg) (newStatus : IdentityStatus) (reason : String)
    {s : SampraanIdentityRegistry} (h : s.lifecycleCount wallet + 1 < 2 ^ 256) :
    ∃ t, SampraanIdentityRegistry.transition msg wallet newStatus reason s = .ok t :=
  ⟨_, checkedAdd_bind.mpr ⟨h, rfl⟩⟩

theorem transition_carries {newStatus : IdentityStatus} {reason : String}
    (hready : Ready link wallet (room + 1) n)
    (h : ∀ t, SampraanIdentityRegistry.transition { sender := link.operator, timestamp := n.timestamp }
        wallet newStatus reason n.chain.identityRegistry = .ok t →
      SampraanIdentityRegistry.run link.governance n.chain.accessControl.hasRole
        { sender := link.operator, timestamp := n.timestamp } n.chain.identityRegistry call = .ok t) :
    Carries link wallet room newStatus n (submit link call action) := by
  have hcount := hready.count
  have hroom : n.chain.identityRegistry.lifecycleCount wallet + 1 < 2 ^ 256 := by omega
  obtain ⟨t, ht⟩ := transition_runs { sender := link.operator, timestamp := n.timestamp } newStatus
    reason hroom
  have htransitions := SampraanIdentityRegistry.transition_ok ht
  have hleft : t.lifecycleCount wallet + room < 2 ^ 256 := by
    rw [htransitions.count]
    omega
  have hcarries := submit_carries action hready (h t ht) hleft htransitions.toKeeps.identities
  rwa [htransitions.status] at hcarries

section

variable {reason : String} (hready : Ready link wallet (room + 1) n) (hreason : reason ≠ "")

include hready hreason

theorem verify_carries (action : String) (hstatus : n.chain.identityRegistry.status wallet = .pending) :
    Carries link wallet room .verified n (submit link (.verifyIdentity wallet reason) action) := by
  apply transition_carries hready
  intro t ht
  exact run_verify_iff.mpr ⟨hready.admin, hreason, hstatus, ht⟩

theorem suspend_carries (hstatus : n.chain.identityRegistry.status wallet = .verified) :
    Carries link wallet room .suspended n (submit link (.suspendIdentity wallet reason) action) := by
  apply transition_carries hready
  intro t ht
  exact run_suspend_iff.mpr ⟨hready.admin, hreason, hstatus, ht⟩

theorem reactivate_carries (hstatus : n.chain.identityRegistry.status wallet = .suspended) :
    Carries link wallet room .verified n (submit link (.reactivateIdentity wallet reason) action) := by
  apply transition_carries hready
  intro t ht
  exact run_reactivate_iff.mpr ⟨hready.admin, hreason, hstatus, ht⟩

theorem reactivate_reverts (hstatus : n.chain.identityRegistry.status wallet ≠ .suspended) :
    (submit link (.reactivateIdentity wallet reason) action).run n =
      (.error (link.revertError .invalidStatus), n) := by
  apply submit_run_error hready
  apply runNow_error
  simp only [SampraanIdentityRegistry.run, SampraanIdentityRegistry.reactivateIdentity,
    SampraanIdentityRegistry.onlyIdentityAdmin, revertIf_bind_error, not_not]
  exact .inr ⟨hready.admin, .inr ⟨hreason, .inl ⟨hstatus, trivial⟩⟩⟩

end

/-! ### Status changes -/

theorem reasonOr_ne {reason : Option String} {default : String} (h : default ≠ "") :
    reasonOr reason default ≠ "" := by
  unfold reasonOr
  simp only
  split
  · exact h
  · assumption

theorem statusReason_ne (reason : Option String) (status : Backend.IdentityStatus) :
    reasonOr reason s!"status change to {status.label}" ≠ "" := by
  apply reasonOr_ne
  cases status <;> decide

section

variable {walletAddress : String} (status : Backend.IdentityStatus) (reason : Option String)
  (hready : Ready link (link.address walletAddress) (room + 1) n)

include hready

theorem setIdentityStatus_carries
    (hchanged : changed status (n.chain.identityRegistry.status (link.address walletAddress)) ≠
      n.chain.identityRegistry.status (link.address walletAddress)) :
    Carries link (link.address walletAddress) room
      (changed status (n.chain.identityRegistry.status (link.address walletAddress))) n
      (setIdentityStatus link walletAddress status reason) := by
  have hreason := statusReason_ne reason status
  apply Carries.of_run (Async.run_bind_ok (ensureInitialized_run hready))
  apply Carries.enqueueSubmit
  apply Carries.of_run (Async.run_bind_ok (view_run _ hready))
  generalize hcurrent : n.chain.identityRegistry.status (link.address walletAddress) = current
    at hchanged ⊢
  cases current with
  | none => exact absurd (by cases status <;> rfl) hchanged
  | pending =>
    cases status with
    | active => exact verify_carries hready hreason _ hcurrent
    | suspended => exact absurd rfl hchanged
    | revoked => exact absurd rfl hchanged
  | verified =>
    cases status with
    | active => exact absurd rfl hchanged
    | suspended => exact suspend_carries hready hreason hcurrent
    | revoked => exact suspend_carries hready hreason hcurrent
  | suspended =>
    cases status with
    | active => exact reactivate_carries hready hreason hcurrent
    | suspended => exact absurd rfl hchanged
    | revoked => exact absurd rfl hchanged
  | deactivated => exact absurd (by cases status <;> rfl) hchanged

/-- A status that the chain has already is asked for in vain. -/
theorem setIdentityStatus_fails
    (hchanged : changed status (n.chain.identityRegistry.status (link.address walletAddress)) =
      n.chain.identityRegistry.status (link.address walletAddress)) :
    Fails n (setIdentityStatus link walletAddress status reason) := by
  have hreason := statusReason_ne reason status
  apply Fails.of_run (Async.run_bind_ok (ensureInitialized_run hready))
  apply Fails.enqueueSubmit
  apply Fails.of_run (Async.run_bind_ok (view_run _ hready))
  generalize hcurrent : n.chain.identityRegistry.status (link.address walletAddress) = current
    at hchanged ⊢
  cases current with
  | none => exact ⟨_, rfl⟩
  | pending =>
    cases status with
    | active => cases hchanged
    | suspended => exact ⟨_, rfl⟩
    | revoked => exact ⟨_, rfl⟩
  | verified =>
    cases status with
    | active => exact ⟨_, reactivate_reverts hready hreason (by rw [hcurrent]; decide)⟩
    | suspended => cases hchanged
    | revoked => cases hchanged
  | suspended =>
    cases status with
    | active => cases hchanged
    | suspended => exact ⟨_, rfl⟩
    | revoked => exact ⟨_, rfl⟩
  | deactivated =>
    cases status with
    | active => exact ⟨_, reactivate_reverts hready hreason (by rw [hcurrent]; decide)⟩
    | suspended => exact ⟨_, rfl⟩
    | revoked => exact ⟨_, rfl⟩

end

/-! ### Anchors -/

/-- The platform can anchor the identity, and knows when it has been before. -/
structure Served (env : Environment) (link : Link) (did : String) : Prop where
  configured : ∃ besu, env.besu = some besu ∧ besu.privateKey.getD "" ≠ ""
  wallet : walletOf env link did ≠ 0
  digest : keccakText env link did ≠ 0
  tells : LooksRegistered (link.revertError .alreadyRegistered)

/-- The digest of the DID is nobody's yet. -/
abbrev Free (env : Environment) (link : Link) (did : String) (n : Network) : Prop :=
  n.chain.identityRegistry.didOwners (keccakText env link did) = 0

section

variable {did : String} (hserved : Served env link did)

include hserved

theorem registerOnce_leaves (hready : Ready link (walletOf env link did) room n)
    (hnone : n.chain.identityRegistry.status (walletOf env link did) = .none)
    (hfree : Free env link did n) : ∃ evidence, Leaves link (walletOf env link did) 2 .pending n
      (registerOnce env link did (walletText env did)) (some evidence) := by
  have hrun : ∃ t, SampraanIdentityRegistry.run link.governance n.chain.accessControl.hasRole
      { sender := link.operator, timestamp := n.timestamp } n.chain.identityRegistry
      (registration env link did (walletText env did)) = .ok t :=
    ⟨_, revertIf_bind.mpr ⟨not_not.mpr hready.admin, revertIf_bind.mpr ⟨hserved.wallet,
      revertIf_bind.mpr ⟨hserved.digest, revertIf_bind.mpr ⟨not_not.mpr hnone,
        revertIf_bind.mpr ⟨not_not.mpr hfree, rfl⟩⟩⟩⟩⟩⟩
  obtain ⟨t, ht⟩ := hrun
  have hregisters := (SampraanIdentityRegistry.registerIdentity_ok ht).2
  have hcount : t.lifecycleCount (walletOf env link did) + 2 < 2 ^ 256 := by
    have hone : t.lifecycleCount (walletOf env link did) = 1 := hregisters.count
    omega
  have hpending : t.status (walletOf env link did) = .pending := hregisters.record.1
  obtain ⟨evidence, hsubmit⟩ := submit_carries "IDENTITY_REGISTER" hready ht hcount
    hregisters.toKeeps.identities
  rw [hpending] at hsubmit
  refine ⟨evidence, Leaves.recover ?_⟩
  apply Leaves.bind (a := evidence)
  · exact Leaves.of_run (Async.run_bind_ok (ensureInitialized_run hready)) hsubmit.recover
  · intro u hu hstatus
    exact hstatus ▸ leaves_pure hu (some evidence)

theorem registerOnce_known (hready : Ready link (walletOf env link did) room n)
    (hknown : Known env link did n.chain.identityRegistry) :
    (registerOnce env link did (walletText env did)).run n = (.ok none, n) := by
  have hreverts : SampraanIdentityRegistry.run link.governance n.chain.accessControl.hasRole
      { sender := link.operator, timestamp := n.timestamp } n.chain.identityRegistry
      (registration env link did (walletText env did)) = .error .alreadyRegistered := by
    simp only [registration, SampraanIdentityRegistry.run, SampraanIdentityRegistry.registerIdentity,
      SampraanIdentityRegistry.onlyIdentityAdmin, revertIf_bind_error, not_not]
    refine .inr ⟨hready.admin, .inr ⟨hserved.wallet, .inr ⟨hserved.digest, ?_⟩⟩⟩
    by_cases hnone : n.chain.identityRegistry.status (walletOf env link did) = .none
    · exact .inr ⟨hnone, .inl ⟨hknown.resolve_left (not_not.mpr hnone), trivial⟩⟩
    · exact .inl ⟨hnone, trivial⟩
  have hregister : (registerIdentity env link did (walletText env did)).run n =
      (.error (link.revertError .alreadyRegistered), n) := by
    rw [registerIdentity, Async.run_bind_ok (ensureInitialized_run hready)]
    exact enqueueSubmit_run_error (submit_run_error hready (runNow_error hreverts))
  have htells : isAlreadyRegisteredError (describeError (link.revertError .alreadyRegistered)) = true :=
    hserved.tells
  change (Async.recover _ _).run n = _
  rw [Async.run_recover, Async.run_bind_error hregister]
  dsimp only
  rw [if_pos htells]
  rfl

end

theorem verifyIdentityOnChain_leaves {walletAddress reason : String}
    (hready : Ready link (link.address walletAddress) (room + 1) n)
    (hpending : n.chain.identityRegistry.status (link.address walletAddress) = .pending) :
    ∃ evidence, Leaves link (link.address walletAddress) room .verified n
      (verifyIdentityOnChain link walletAddress reason) (some evidence) := by
  have hreason : reasonOr (some reason) "identity verified by platform provisioning" ≠ "" :=
    reasonOr_ne (by decide)
  obtain ⟨evidence, hsubmit⟩ :=
    (verify_carries hready hreason "IDENTITY_STATUS_CHANGE" hpending).enqueueSubmit
  refine ⟨evidence, Leaves.of_run (Async.run_bind_ok (ensureInitialized_run hready)) ?_⟩
  apply Leaves.of_run (Async.run_bind_ok (view_run _ hready))
  rw [if_neg (not_not.mpr hpending)]
  apply hsubmit.bind
  intro u hu hstatus
  exact hstatus ▸ leaves_pure hu (some evidence)

theorem verifyIdentityOnChain_rests {walletAddress reason : String}
    (hready : Ready link (link.address walletAddress) room n)
    (hpending : n.chain.identityRegistry.status (link.address walletAddress) ≠ .pending) :
    (verifyIdentityOnChain link walletAddress reason).run n = (.ok none, n) := by
  rw [verifyIdentityOnChain, Async.run_bind_ok (ensureInitialized_run hready),
    Async.run_bind_ok (view_run _ hready), if_pos hpending]
  rfl

/-! ### Whole calls -/

theorem Ready.mono {room' : ℕ} (hready : Ready link wallet room n) (h : room' ≤ room) :
    Ready link wallet room' n :=
  ⟨hready.initialization, hready.refusal, hready.lostAnswer, hready.admin, by
    have hcount := hready.count
    omega⟩

/-- Where the wallet stands after an anchor. -/
abbrev anchoredStatus (env : Environment) (link : Link) (did : String) (n : Network) : IdentityStatus :=
  provisioned (Free env link did n) (n.chain.identityRegistry.status (walletOf env link did))

theorem provisioned_pending {free : Prop} [Decidable free] : provisioned free .pending = .verified := rfl

theorem provisioned_fresh {free : Prop} [Decidable free] (hfree : free) :
    provisioned free .none = .verified := if_pos hfree

theorem provisioned_other {free : Prop} [Decidable free] {current : IdentityStatus}
    (hpending : current ≠ .pending) (hfresh : ¬ (current = .none ∧ free)) :
    provisioned free current = current := by
  cases current with
  | none => exact if_neg fun hfree => hfresh ⟨rfl, hfree⟩
  | pending => exact absurd rfl hpending
  | verified => rfl
  | suspended => rfl
  | deactivated => rfl

/-- The audit row leaves the node alone. -/
theorem persistAnchorAudit_leaves {status : IdentityStatus} (did : String) (a : AnchorResult)
    (hready : Ready link wallet room n) (hstatus : n.chain.identityRegistry.status wallet = status) :
    Leaves link wallet room status n (persistAnchorAudit env did a) () := by
  unfold persistAnchorAudit
  split
  · refine ⟨_, Async.run_statement _ _, ?_⟩
    dsimp only
    split
    · exact ⟨⟨hready.initialization, hready.refusal, hready.lostAnswer, hready.admin, hready.count⟩,
        hstatus, fun _ _ => rfl⟩
    · exact ⟨hready, hstatus, fun _ _ => rfl⟩
  · exact hstatus ▸ leaves_pure hready ()

section

variable {did : String} (displayName : String) (hserved : Served env link did)
  (hready : Ready link (walletOf env link did) 2 n)

include hserved hready

theorem provision_leaves {besu : BesuConfig} (hbesu : env.besu = some besu)
    (hkey : besu.privateKey.getD "" ≠ "") :
    ∃ a, Leaves link (walletOf env link did) 1 (anchoredStatus env link did n) n
        (provision env link besu did displayName) a ∧
      (a.outcome = .anchored ↔ anchoredStatus env link did n ≠
        n.chain.identityRegistry.status (walletOf env link did)) := by
  have hwallet := deriveIdentityWallet_eq hbesu did
  rw [provision, requireOperatorKey]
  simp only [hkey, if_false, Async.pure_eq, Async.fulfilled_bind, hwallet]
  by_cases hfresh : n.chain.identityRegistry.status (walletOf env link did) = .none ∧
      Free env link did n
  · obtain ⟨evidence, hregisters⟩ := registerOnce_leaves hserved hready hfresh.1 hfresh.2
    obtain ⟨t, hrun, ht, hstatus, hothers⟩ := hregisters
    obtain ⟨promotion, hverifies⟩ := verifyIdentityOnChain_leaves ht hstatus
    rw [anchoredStatus, hfresh.1, provisioned_fresh hfresh.2]
    refine ⟨anchored (some (walletText env did)) (some promotion), ?_, by simp [anchored]⟩
    apply Leaves.after hrun hothers
    apply hverifies.bind
    intro u hu hverified
    rw [if_neg (by simp)]
    exact hverified ▸ leaves_pure hu _
  have hknown : Known env link did n.chain.identityRegistry := not_and_or.mp hfresh
  have hregister := registerOnce_known hserved hready hknown
  by_cases hpending : n.chain.identityRegistry.status (walletOf env link did) = .pending
  · obtain ⟨promotion, hverifies⟩ := verifyIdentityOnChain_leaves hready hpending
    rw [anchoredStatus, hpending, provisioned_pending]
    refine ⟨anchored (some (walletText env did)) (some promotion), ?_, by simp [anchored]⟩
    apply Leaves.of_run (Async.run_bind_ok hregister)
    apply hverifies.bind
    intro u hu hverified
    rw [if_neg (by simp)]
    exact hverified ▸ leaves_pure hu _
  · rw [anchoredStatus, provisioned_other hpending hfresh]
    refine ⟨skipped s!"Identity {did} is already anchored on-chain" (some (walletText env did)), ?_,
      by simp [skipped]⟩
    apply Leaves.of_run (Async.run_bind_ok hregister)
    apply Leaves.of_run (Async.run_bind_ok (verifyIdentityOnChain_rests hready hpending))
    rw [if_pos ⟨rfl, rfl⟩]
    exact leaves_pure (hready.mono (by decide)) _

theorem anchorIdentity_leaves :
    ∃ a, Leaves link (walletOf env link did) 1 (anchoredStatus env link did n) n
        (anchorIdentity env link did displayName) a ∧
      (a.outcome = .anchored ↔ anchoredStatus env link did n ≠
        n.chain.identityRegistry.status (walletOf env link did)) := by
  obtain ⟨besu, hbesu, hkey⟩ := hserved.configured
  obtain ⟨a, hprovision, hout⟩ := provision_leaves displayName hserved hready hbesu hkey
  have hattempt : Leaves link (walletOf env link did) 1 (anchoredStatus env link did n) n
      (attemptAnchor env link did displayName) a := by
    rw [attemptAnchor, hbesu]
    exact hprovision.recover
  refine ⟨a, hattempt.bind fun t ht hstatus => ?_, hout⟩
  · apply (persistAnchorAudit_leaves did a ht hstatus).bind
    exact fun u hu hstatus => hstatus ▸ leaves_pure hu a

theorem resolveOnChainWallet_leaves :
    Leaves link (walletOf env link did) 1 (anchoredStatus env link did n) n
      (resolveOnChainWallet env link did displayName) (walletText env did) := by
  obtain ⟨a, hanchor, -⟩ := anchorIdentity_leaves displayName hserved hready
  obtain ⟨besu, hbesu, hkey⟩ := hserved.configured
  have hwallet := deriveIdentityWallet_eq hbesu did
  rw [resolveOnChainWallet, hbesu]
  simp only [hkey, if_false, hwallet]
  exact hanchor.bind fun t ht hstatus => hstatus ▸ leaves_pure ht _

theorem anchorLifecycle_leaves (status : Backend.IdentityStatus) {unexplained : AnchorOutcome}
    (hunexplained : unexplained ≠ .anchored) (reason : String) :
    ∃ a, Leaves link (walletOf env link did) 0 (changed status (anchoredStatus env link did n)) n
        (anchorLifecycle env link status unexplained did displayName reason) a ∧
      (a.outcome = .anchored ↔
        changed status (anchoredStatus env link did n) ≠ anchoredStatus env link did n) := by
  obtain ⟨t, hrun, ht, hstatus, hothers⟩ := resolveOnChainWallet_leaves displayName hserved hready
  by_cases hchanged : changed status (anchoredStatus env link did n) = anchoredStatus env link did n
  · obtain ⟨error, hfails⟩ := setIdentityStatus_fails status (some reason) ht
      (by rw [← walletOf, hstatus]; exact hchanged)
    refine ⟨{ failed error with
      outcome := if describeError error = "" then unexplained else .failed }, ⟨t, ?_, ?_⟩, ?_⟩
    · change (Async.recover _ _).run n = _
      rw [Async.run_recover, (Async.run_bind_ok hrun).trans (Async.run_bind_error hfails)]
      rfl
    · rw [hchanged]
      exact ⟨ht.mono (by decide), hstatus, hothers⟩
    · refine iff_of_false ?_ (not_not.mpr hchanged)
      dsimp only
      split
      · exact hunexplained
      · decide
  · have hcarries := setIdentityStatus_carries status (some reason) ht
    rw [← walletOf, hstatus] at hcarries
    obtain ⟨evidence, hcarries⟩ := hcarries hchanged
    refine ⟨anchored none none, Leaves.recover (Leaves.after hrun hothers ?_),
      by simp [anchored, hchanged]⟩
    exact hcarries.bind fun u hu hs => hs ▸ leaves_pure hu _

theorem anchorStatusChange_leaves (status : Backend.IdentityStatus) :
    ∃ a, Leaves link (walletOf env link did) 0 (changed status (anchoredStatus env link did n)) n
        (anchorStatusChange env link did displayName status) (some a) ∧
      (a.outcome = .anchored ↔
        changed status (anchoredStatus env link did n) ≠ anchoredStatus env link did n) := by
  obtain ⟨_, ⟨t, hrun, ht, hstatus, hothers⟩, -⟩ :=
    anchorIdentity_leaves displayName hserved hready
  obtain ⟨besu, hbesu, hkey⟩ := hserved.configured
  have hwallet := deriveIdentityWallet_eq hbesu did
  rw [anchorStatusChange, hbesu]
  simp only [hkey, if_false, hwallet]
  by_cases hchanged : changed status (anchoredStatus env link did n) = anchoredStatus env link did n
  · obtain ⟨error, hfails⟩ := setIdentityStatus_fails status none ht
      (by rw [← walletOf, hstatus]; exact hchanged)
    have hinner : (anchorStatus link (walletText env did) status).run t =
        if isSameStatusError error.message then
          (.ok (skipped "On-chain status already matches the requested status" none), t)
        else (.error error, t) := by
      change (Async.recover _ _).run t = _
      rw [Async.run_recover, Async.run_bind_error hfails]
      dsimp only
      split <;> rfl
    rw [hchanged]
    by_cases hsame : isSameStatusError error.message = true
    · rw [if_pos hsame] at hinner
      refine ⟨skipped "On-chain status already matches the requested status" none, ?_,
        by simp [skipped]⟩
      have hskips : Leaves link (walletOf env link did) 1 (anchoredStatus env link did n) t
          (anchorStatus link (walletText env did) status)
          (skipped "On-chain status already matches the requested status" none) :=
        ⟨t, hinner, ht, hstatus, fun _ _ => rfl⟩
      refine Leaves.bind (Leaves.recover (Leaves.after hrun hothers hskips)) ?_
      exact fun u hu hs => hs ▸ leaves_pure (hu.mono (by decide)) _
    · rw [if_neg hsame] at hinner
      refine ⟨failed error, ?_, by simp [failed]⟩
      refine Leaves.after (a := failed error) ?_ hothers (hstatus ▸ leaves_pure (ht.mono (by decide)) _)
      change (Async.recover _ _).run n = _
      rw [Async.run_recover, (Async.run_bind_ok hrun).trans hinner]
      rfl
  · have hcarries := setIdentityStatus_carries status none ht
    rw [← walletOf, hstatus] at hcarries
    obtain ⟨evidence, hcarries⟩ := hcarries hchanged
    refine ⟨{ anchored none none with reason := some evidence.transactionHash }, ?_,
      by simp [anchored, hchanged]⟩
    have hanchors : Leaves link (walletOf env link did) 0
        (changed status (anchoredStatus env link did n)) t (anchorStatus link (walletText env did) status)
        { anchored none none with reason := some evidence.transactionHash } :=
      Leaves.recover (hcarries.bind fun u hu hs => hs ▸ leaves_pure hu _)
    refine Leaves.bind (Leaves.recover (Leaves.after hrun hothers hanchors)) ?_
    exact fun u hu hs => hs ▸ leaves_pure hu _

end

end

/-! ### The table -/

/-- What the call is to make of the status on the chain. -/
def AnchorCall.target (call : AnchorCall) (free : Prop) [Decidable free] (current : IdentityStatus) :
    IdentityStatus :=
  match call.change with
  | none => provisioned free current
  | some change => changed change.status (provisioned free current)

/-- When the call is answered ANCHORED. The anchor that goes before a change has verified a pending
wallet already, so that the request to verify it comes too late. -/
def AnchorCall.Succeeds (call : AnchorCall) (free : Prop) (current : IdentityStatus) : Prop :=
  match call.change with
  | none => current = .pending ∨ current = .none ∧ free
  | some change =>
    if change.status = .active then current = .suspended
    else current = .verified ∨ current = .pending ∨ current = .none ∧ free

section

variable {free : Prop} [Decidable free] {current : IdentityStatus}

theorem provisioned_ne_iff :
    provisioned free current ≠ current ↔ current = .pending ∨ current = .none ∧ free := by
  by_cases hfree : free
  · cases current <;> simp [provisioned, hfree]
  · cases current <;> simp [provisioned, hfree]

theorem changed_ne_iff (status : Backend.IdentityStatus) :
    changed status (provisioned free current) ≠ provisioned free current ↔
      if status = .active then current = .suspended
      else current = .verified ∨ current = .pending ∨ current = .none ∧ free := by
  by_cases hactive : status = .active
  · by_cases hfree : free
    · cases current <;> simp [provisioned, changed, hactive, hfree]
    · cases current <;> simp [provisioned, changed, hactive, hfree]
  · by_cases hfree : free
    · cases current <;> simp [provisioned, changed, hactive, hfree]
    · cases current <;> simp [provisioned, changed, hactive, hfree]

end

theorem undisturbed {n : Network} (call : AnchorCall) (hserved : Served env link call.did)
    (hready : Ready link (walletOf env link call.did) 2 n) :
    ∃ a t, (call.body env link).run n = (.ok (some a), t) ∧
      t.chain.identityRegistry.status (walletOf env link call.did) =
        call.target (Free env link call.did n)
          (n.chain.identityRegistry.status (walletOf env link call.did)) ∧
      KeepsOthers (walletOf env link call.did) n t ∧
      (a.outcome = .anchored ↔ call.Succeeds (Free env link call.did n)
        (n.chain.identityRegistry.status (walletOf env link call.did))) := by
  have hlifecycle : ∀ (change : Change) (unexplained : AnchorOutcome) (reason : String),
      unexplained ≠ .anchored → ∃ a t, Async.run (do return some (← anchorLifecycle env link
          change.status unexplained call.did call.displayName reason)) n = (.ok (some a), t) ∧
        t.chain.identityRegistry.status (walletOf env link call.did) =
          changed change.status (anchoredStatus env link call.did n) ∧
        KeepsOthers (walletOf env link call.did) n t ∧
        (a.outcome = .anchored ↔ changed change.status (anchoredStatus env link call.did n) ≠
          anchoredStatus env link call.did n) := by
    intro change unexplained reason hunexplained
    obtain ⟨a, ⟨t, hrun, -, hstatus, hothers⟩, hout⟩ := anchorLifecycle_leaves
      call.displayName hserved hready change.status hunexplained reason
    exact ⟨a, t, Async.run_bind_ok hrun, hstatus, hothers, hout⟩
  obtain ⟨did, displayName, _ | ⟨reason | reason | reason | status⟩⟩ := call
  · obtain ⟨a, ⟨t, hrun, -, hstatus, hothers⟩, hout⟩ :=
      anchorIdentity_leaves displayName hserved hready
    exact ⟨a, t, Async.run_bind_ok hrun, hstatus, hothers, hout.trans provisioned_ne_iff⟩
  · obtain ⟨a, t, hrun, hstatus, hothers, hout⟩ :=
      hlifecycle (.verify reason) .skipped reason (by decide)
    exact ⟨a, t, hrun, hstatus, hothers, hout.trans (changed_ne_iff _)⟩
  · obtain ⟨a, t, hrun, hstatus, hothers, hout⟩ :=
      hlifecycle (.suspend reason) .failed reason (by decide)
    exact ⟨a, t, hrun, hstatus, hothers, hout.trans (changed_ne_iff _)⟩
  · obtain ⟨a, t, hrun, hstatus, hothers, hout⟩ :=
      hlifecycle (.reactivate reason) .failed reason (by decide)
    exact ⟨a, t, hrun, hstatus, hothers, hout.trans (changed_ne_iff _)⟩
  · obtain ⟨a, ⟨t, hrun, -, hstatus, hothers⟩, hout⟩ :=
      anchorStatusChange_leaves displayName hserved hready status
    exact ⟨a, t, hrun, hstatus, hothers, hout.trans (changed_ne_iff _)⟩

/-- A pending or a new identity is verified, and the answer says that it is not. -/
theorem undisturbed_sample : ∃ a t, (AnchorCall.body Backend.sampleEnvironment sampleLink
      ⟨"did:sampraan:holder", "Holder", some (.verify "papers seen")⟩).run freshNetwork = (.ok (some a), t) ∧
    t.chain.identityRegistry.status 0xB0B = .verified ∧ a.outcome ≠ .anchored := by
  have hserved : Served Backend.sampleEnvironment sampleLink "did:sampraan:holder" := by
    constructor
    case configured => exact ⟨_, rfl, by decide⟩
    case wallet => decide
    case digest => decide
    case tells =>
      unfold LooksRegistered
      decide +kernel
  have hready : Ready sampleLink (walletOf Backend.sampleEnvironment sampleLink "did:sampraan:holder")
      2 freshNetwork := by
    constructor
    case count => decide
    all_goals rfl
  obtain ⟨a, t, hrun, hstatus, -, hout⟩ := undisturbed
    ⟨"did:sampraan:holder", "Holder", some (.verify "papers seen")⟩ hserved hready
  refine ⟨a, t, hrun, hstatus, fun hanchored => ?_⟩
  cases hout.mp hanchored

end Sampraan.Blockchain.Anchoring
