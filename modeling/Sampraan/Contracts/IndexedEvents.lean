import Sampraan.Contracts.Chain

/-! The events of the contracts that the subgraph has handlers for, and what they tell of the call that
emits them. -/

namespace Sampraan.Contracts

open Library

inductive IndexedEvent where
  | roleGranted (role : Bytes32) (account sender : Address)
  | roleRevoked (role : Bytes32) (account sender : Address)
  | identityRegistered (wallet : Address) (didDigest publicKeyDigest : Bytes32) (registeredAt : ℕ)
  | identityStatusChanged (wallet : Address) (didDigest : Bytes32)
    (oldStatus newStatus : IdentityStatus) (changedAt : ℕ)
  | assetRegistered (tokenId : ℕ) (assetIdDigest : Bytes32) (custodian : Address)
    (classificationDigest metadataDigest : Bytes32) (registeredAt : ℕ)
  | assetAssigned (tokenId : ℕ) (assetIdDigest : Bytes32) (custodian operator : Address)
    (assignedAt : ℕ)
  | assetTransferred (tokenId : ℕ) (assetIdDigest : Bytes32)
    (fromCustodian toCustodian operator : Address) (transferredAt : ℕ)
  | assetStatusChanged (tokenId : ℕ) (assetIdDigest : Bytes32) (oldStatus newStatus : AssetStatus)
    (operator : Address) (changedAt : ℕ)
  deriving DecidableEq

/-- What the event says of the role of the account: whether it is held from now on. -/
def IndexedEvent.roleChange (role : Bytes32) (account : Address) : IndexedEvent → Option Bool
  | .roleGranted role' account' _ => if role = role' ∧ account = account' then some true else none
  | .roleRevoked role' account' _ => if role = role' ∧ account = account' then some false else none
  | _ => none

/-! ### The access control contract -/

namespace SampraanAccessControl

/-- The inherited contract reports only what it changes. -/
def Call.indexedEvent (msg : Msg) (s : SampraanAccessControl) : Call → Option IndexedEvent
  | .grantRole role account =>
    if s.hasRole role account then none else some (.roleGranted role account msg.sender)
  | .revokeRole role account =>
    if s.hasRole role account then some (.roleRevoked role account msg.sender) else none
  | .renounceRole role account =>
    if s.hasRole role account then some (.roleRevoked role account msg.sender) else none

variable {msg : Msg} {role : Bytes32} {account : Address} {s t : SampraanAccessControl}

theorem Call.roleChange_eq {call : Call} :
    (call.indexedEvent msg s).bind (IndexedEvent.roleChange role account) =
      if s.hasRole call.subject.1 call.subject.2.1 = call.subject.2.2 then none
      else if role = call.subject.1 ∧ account = call.subject.2.1 then some call.subject.2.2
      else none := by
  cases call with
  | grantRole role' account' =>
    cases hheld : s.hasRole role' account' with
    | true => simp [indexedEvent, subject, hheld]
    | false =>
      simp only [indexedEvent, subject, hheld, Bool.false_eq_true, if_false]
      rfl
  | revokeRole role' account' =>
    cases hheld : s.hasRole role' account' with
    | true =>
      simp only [indexedEvent, subject, hheld, if_true, Bool.true_eq_false, if_false]
      rfl
    | false => simp [indexedEvent, subject, hheld]
  | renounceRole role' account' =>
    cases hheld : s.hasRole role' account' with
    | true =>
      simp only [indexedEvent, subject, hheld, if_true, Bool.true_eq_false, if_false]
      rfl
    | false => simp [indexedEvent, subject, hheld]

/-- The events tell the changes of every role, and nothing else. -/
theorem run_roleChange {call : Call} (h : run msg call s = .ok t) :
    (call.indexedEvent msg s).bind (IndexedEvent.roleChange role account) =
      if t.hasRole role account = s.hasRole role account then none
      else some (t.hasRole role account) := by
  obtain ⟨-, hsets⟩ := run_sets h
  have hrole := hsets.hasRole role account
  rw [Call.roleChange_eq]
  by_cases hsubject : role = call.subject.1 ∧ account = call.subject.2.1
  · rw [if_pos hsubject] at hrole
    rw [if_pos hsubject, ← hsubject.1, ← hsubject.2, hrole]
    exact if_congr eq_comm rfl rfl
  · rw [if_neg hsubject] at hrole
    rw [if_neg hsubject, if_pos hrole, ite_self]

end SampraanAccessControl

/-! ### The identity registry -/

namespace SampraanIdentityRegistry

def statusEvent (msg : Msg) (s : SampraanIdentityRegistry) (wallet : Address)
    (newStatus : IdentityStatus) : IndexedEvent :=
  .identityStatusChanged wallet (s.identities wallet).didDigest (s.identities wallet).status newStatus
    (uint64 msg.timestamp)

def Call.indexedEvent (msg : Msg) (s : SampraanIdentityRegistry) : Call → Option IndexedEvent
  | .registerIdentity wallet didDigest publicKeyDigest =>
    some (.identityRegistered wallet didDigest publicKeyDigest (uint64 msg.timestamp))
  | .verifyIdentity wallet _ => some (statusEvent msg s wallet .verified)
  | .suspendIdentity wallet _ => some (statusEvent msg s wallet .suspended)
  | .reactivateIdentity wallet _ => some (statusEvent msg s wallet .verified)
  | .governanceDeactivateIdentity wallet _ => some (statusEvent msg s wallet .deactivated)
  | _ => none

/-- What an event says of the records; no event, that they are as they were. -/
def Reported (s t : SampraanIdentityRegistry) : Option IndexedEvent → Prop
  | some (.identityRegistered wallet didDigest publicKeyDigest registeredAt) =>
    (s.identities wallet).status = .none ∧ t.identities = Function.update s.identities wallet
      { didDigest := didDigest
        publicKeyDigest := publicKeyDigest
        status := .pending
        registeredAt := registeredAt
        statusChangedAt := registeredAt }
  | some (.identityStatusChanged wallet _ oldStatus newStatus changedAt) =>
    (s.identities wallet).status = oldStatus ∧ oldStatus ≠ .none ∧ oldStatus ≠ .deactivated ∧
      newStatus ≠ .none ∧ t.identities = Function.update s.identities wallet
        { s.identities wallet with status := newStatus, statusChangedAt := changedAt }
  | none => t.identities = s.identities
  | _ => False

/-- What it says of the logs: an entry with these statuses; no event, that the entry keeps its own. -/
def Entered (s t : SampraanIdentityRegistry) : Option IndexedEvent → Prop
  | some (.identityRegistered wallet _ _ _) => ∃ e, e.fromStatus = .none ∧ e.toStatus = .pending ∧
    t.lifecycle = Function.update s.lifecycle wallet (s.lifecycle wallet ++ [e])
  | some (.identityStatusChanged wallet _ oldStatus newStatus _) =>
    ∃ e, e.fromStatus = oldStatus ∧ e.toStatus = newStatus ∧ oldStatus ≠ newStatus ∧
      t.lifecycle = Function.update s.lifecycle wallet (s.lifecycle wallet ++ [e])
  | none => ∃ wallet e, e.fromStatus = e.toStatus ∧
    t.lifecycle = Function.update s.lifecycle wallet (s.lifecycle wallet ++ [e])
  | _ => False

variable {governance : Address} {roles : Roles} {msg : Msg} {s t : SampraanIdentityRegistry}
  {wallet : Address} {newStatus : IdentityStatus} {reason : String}

theorem transition_reported (hnone : (s.identities wallet).status ≠ .none)
    (hlive : (s.identities wallet).status ≠ .deactivated) (hnew : newStatus ≠ .none)
    (hmoved : (s.identities wallet).status ≠ newStatus)
    (h : transition msg wallet newStatus reason s = .ok t) :
    Reported s t (some (statusEvent msg s wallet newStatus)) ∧
      Entered s t (some (statusEvent msg s wallet newStatus)) := by
  simp only [transition, checkedAdd_bind, pure_eq_ok] at h
  obtain ⟨-, rfl⟩ := h
  exact ⟨⟨rfl, hnone, hlive, hnew, rfl⟩, _, rfl, rfl, hmoved, rfl⟩

theorem recordDidDocumentUpdate_reported {documentHash : Bytes32}
    (h : recordDidDocumentUpdate msg wallet documentHash reason s = .ok t) :
    Reported s t none ∧ Entered s t none := by
  simp only [recordDidDocumentUpdate, checkedAdd_bind, pure_eq_ok] at h
  obtain ⟨-, -, rfl⟩ := h
  exact ⟨rfl, wallet, _, rfl, rfl⟩

theorem run_reported {call : Call} (h : run governance roles msg s call = .ok t) :
    Reported s t (call.indexedEvent msg s) ∧ Entered s t (call.indexedEvent msg s) := by
  cases call with
  | registerIdentity wallet didDigest publicKeyDigest =>
    simp only [run, registerIdentity, onlyIdentityAdmin, revertIf_bind, pure_eq_ok, not_not] at h
    obtain ⟨-, -, -, hnone, -, rfl⟩ := h
    exact ⟨⟨hnone, rfl⟩, _, rfl, rfl, rfl⟩
  | verifyIdentity wallet reason =>
    simp only [run, verifyIdentity, onlyIdentityAdmin, revertIf_bind, not_not] at h
    obtain ⟨-, -, hstatus, h⟩ := h
    exact transition_reported (by simp [hstatus]) (by simp [hstatus]) (by decide) (by simp [hstatus]) h
  | suspendIdentity wallet reason =>
    simp only [run, suspendIdentity, onlyIdentityAdmin, revertIf_bind, not_not] at h
    obtain ⟨-, -, hstatus, h⟩ := h
    exact transition_reported (by simp [hstatus]) (by simp [hstatus]) (by decide) (by simp [hstatus]) h
  | reactivateIdentity wallet reason =>
    simp only [run, reactivateIdentity, onlyIdentityAdmin, revertIf_bind, not_not] at h
    obtain ⟨-, -, hstatus, h⟩ := h
    exact transition_reported (by simp [hstatus]) (by simp [hstatus]) (by decide) (by simp [hstatus]) h
  | governanceDeactivateIdentity wallet reason =>
    simp only [run, governanceDeactivateIdentity, revertIf_bind, not_not] at h
    obtain ⟨-, -, hnone, hlive, h⟩ := h
    exact transition_reported hnone hlive (by decide) hlive h
  | updateDidDocumentHash documentHash reason =>
    simp only [run, updateDidDocumentHash, revertIf_bind] at h
    obtain ⟨-, -, -, h⟩ := h
    exact recordDidDocumentUpdate_reported h
  | updateDidDocumentHashFor wallet documentHash reason =>
    simp only [run, updateDidDocumentHashFor, onlyIdentityAdmin, revertIf_bind, not_not] at h
    obtain ⟨-, -, -, -, -, h⟩ := h
    exact recordDidDocumentUpdate_reported h
  | _ => cases h

end SampraanIdentityRegistry

/-! ### The asset registry -/

namespace SampraanAssetRegistry

def statusEvent (msg : Msg) (s : SampraanAssetRegistry) (tokenId : ℕ) (newStatus : AssetStatus) :
    IndexedEvent :=
  .assetStatusChanged tokenId (s.assets tokenId).assetIdDigest (s.assets tokenId).status newStatus
    msg.sender (uint64 msg.timestamp)

/-- A burn and a forced transfer report themselves by other events. -/
def Call.indexedEvent (msg : Msg) (s : SampraanAssetRegistry) : Call → Option IndexedEvent
  | .registerAsset assetIdDigest custodian classificationDigest metadataDigest =>
    some (.assetRegistered s.nextTokenId assetIdDigest custodian classificationDigest metadataDigest
      (uint64 msg.timestamp))
  | .assignAsset tokenId custodian =>
    some (.assetAssigned tokenId (s.assets tokenId).assetIdDigest custodian msg.sender
      (uint64 msg.timestamp))
  | .transferCustody tokenId toCustodian =>
    some (.assetTransferred tokenId (s.assets tokenId).assetIdDigest (s.assets tokenId).custodian
      toCustodian msg.sender (uint64 msg.timestamp))
  | .activateAsset tokenId => some (statusEvent msg s tokenId .active)
  | .suspendAsset tokenId => some (statusEvent msg s tokenId .suspended)
  | .restoreAsset tokenId => some (statusEvent msg s tokenId .active)
  | .revokeAsset tokenId => some (statusEvent msg s tokenId .revoked)
  | _ => none

end SampraanAssetRegistry

namespace Chain

def indexedEvent (e : (Msg × Call) × Chain × Chain) : Option IndexedEvent :=
  match e.1.2 with
  | .accessControl call => call.indexedEvent e.1.1 e.2.1.accessControl
  | .identityRegistry call => call.indexedEvent e.1.1 e.2.1.identityRegistry
  | .assetRegistry call => call.indexedEvent e.1.1 e.2.1.assetRegistry

def roleChange (role : Bytes32) (account : Address) (e : (Msg × Call) × Chain × Chain) : Option Bool :=
  (indexedEvent e).bind (IndexedEvent.roleChange role account)

theorem run_roleChange {governance : Address} {role : Bytes32} {account : Address} {msg : Msg}
    {call : Call} {s t : Chain} (h : run governance msg s call = .ok t) :
    roleChange role account ((msg, call), s, t) =
      if t.accessControl.hasRole role account = s.accessControl.hasRole role account then none
      else some (t.accessControl.hasRole role account) := by
  have hdoes := run_does h
  cases call with
  | accessControl call => exact SampraanAccessControl.run_roleChange hdoes.1
  | identityRegistry call =>
    rw [hdoes.2.1, if_pos rfl]
    cases call <;> rfl
  | assetRegistry call =>
    rw [hdoes.2.1, if_pos rfl]
    cases call <;> rfl

end Chain

end Sampraan.Contracts
