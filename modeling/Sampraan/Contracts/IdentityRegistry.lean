import Sampraan.Contracts.AccessControl

/-! `SampraanIdentityRegistry.sol`. -/

namespace Sampraan.Contracts

open Library

inductive IdentityStatus where
  | none
  | pending
  | verified
  | suspended
  | deactivated
  deriving DecidableEq, Inhabited

structure IdentityRecord where
  didDigest : Bytes32
  publicKeyDigest : Bytes32
  status : IdentityStatus
  registeredAt : ℕ
  statusChangedAt : ℕ
  deriving DecidableEq

structure LifecycleEvent where
  fromStatus : IdentityStatus
  toStatus : IdentityStatus
  actor : Address
  reason : String
  atTime : ℕ
  deriving DecidableEq

structure SampraanIdentityRegistry where
  identities : Address → IdentityRecord
  didOwners : Bytes32 → Address
  didDocumentVersion : Address → ℕ
  didDocumentHash : Address → ℕ → Bytes32
  currentDidDocumentHash : Address → Bytes32
  lifecycle : Address → List LifecycleEvent
  lifecycleCount : Address → ℕ

/-- The roles that the access control contract reports when a call runs. -/
abbrev Roles := Bytes32 → Address → Bool

namespace SampraanIdentityRegistry

def emptyRecord : IdentityRecord where
  didDigest := 0
  publicKeyDigest := 0
  status := .none
  registeredAt := 0
  statusChangedAt := 0

def deploy : SampraanIdentityRegistry where
  identities _ := emptyRecord
  didOwners _ := 0
  didDocumentVersion _ := 0
  didDocumentHash _ _ := 0
  currentDidDocumentHash _ := 0
  lifecycle _ := []
  lifecycleCount _ := 0

variable (governance : Address) (roles : Roles) (msg : Msg)

def onlyIdentityAdmin : Result Unit :=
  revertIf (¬ roles identityAdminRole msg.sender) .notIdentityAdmin

def setRecord (wallet : Address) (record : IdentityRecord) (s : SampraanIdentityRegistry) :
    SampraanIdentityRegistry :=
  { s with identities := Function.update s.identities wallet record }

/-- Appends to the log; the caller sets the counter. -/
def pushEvent (wallet : Address) (event : LifecycleEvent) (s : SampraanIdentityRegistry) :
    SampraanIdentityRegistry :=
  { s with lifecycle := Function.update s.lifecycle wallet (s.lifecycle wallet ++ [event]) }

theorem lifecycle_pushEvent (wallet : Address) (event : LifecycleEvent)
    (s : SampraanIdentityRegistry) :
    (s.pushEvent wallet event).lifecycle wallet = s.lifecycle wallet ++ [event] := by
  simp [pushEvent]

def setLifecycleCount (wallet : Address) (n : ℕ) (s : SampraanIdentityRegistry) :
    SampraanIdentityRegistry :=
  { s with lifecycleCount := Function.update s.lifecycleCount wallet n }

def registerIdentity (wallet : Address) (didDigest publicKeyDigest : Bytes32)
    (s : SampraanIdentityRegistry) : Result SampraanIdentityRegistry := do
  onlyIdentityAdmin roles msg
  revertIf (wallet = 0) .zeroAddress
  revertIf (didDigest = 0) .zeroDidDigest
  revertIf ((s.identities wallet).status ≠ .none) .alreadyRegistered
  revertIf (s.didOwners didDigest ≠ 0) .alreadyRegistered
  let s := s.setRecord wallet
    { didDigest := didDigest
      publicKeyDigest := publicKeyDigest
      status := .pending
      registeredAt := uint64 msg.timestamp
      statusChangedAt := uint64 msg.timestamp }
  let s := { s with didOwners := Function.update s.didOwners didDigest wallet }
  let s := s.pushEvent wallet
    { fromStatus := .none
      toStatus := .pending
      actor := msg.sender
      reason := "registered"
      atTime := uint64 msg.timestamp }
  pure (s.setLifecycleCount wallet 1)

def transition (wallet : Address) (newStatus : IdentityStatus) (reason : String)
    (s : SampraanIdentityRegistry) : Result SampraanIdentityRegistry := do
  let record := s.identities wallet
  let s := s.setRecord wallet
    { record with status := newStatus, statusChangedAt := uint64 msg.timestamp }
  let s := s.pushEvent wallet
    { fromStatus := record.status
      toStatus := newStatus
      actor := msg.sender
      reason := reason
      atTime := uint64 msg.timestamp }
  let lifecycleCount ← checkedAdd (s.lifecycleCount wallet) 1
  pure (s.setLifecycleCount wallet lifecycleCount)

def verifyIdentity (wallet : Address) (reason : String) (s : SampraanIdentityRegistry) :
    Result SampraanIdentityRegistry := do
  onlyIdentityAdmin roles msg
  revertIf (reason = "") .zeroReason
  revertIf ((s.identities wallet).status ≠ .pending) .notPending
  transition msg wallet .verified reason s

def suspendIdentity (wallet : Address) (reason : String) (s : SampraanIdentityRegistry) :
    Result SampraanIdentityRegistry := do
  onlyIdentityAdmin roles msg
  revertIf (reason = "") .zeroReason
  revertIf ((s.identities wallet).status ≠ .verified) .invalidStatus
  transition msg wallet .suspended reason s

def reactivateIdentity (wallet : Address) (reason : String) (s : SampraanIdentityRegistry) :
    Result SampraanIdentityRegistry := do
  onlyIdentityAdmin roles msg
  revertIf (reason = "") .zeroReason
  revertIf ((s.identities wallet).status ≠ .suspended) .invalidStatus
  transition msg wallet .verified reason s

def governanceDeactivateIdentity (wallet : Address) (reason : String)
    (s : SampraanIdentityRegistry) : Result SampraanIdentityRegistry := do
  revertIf (msg.sender ≠ governance) .notGovernance
  revertIf (reason = "") .zeroReason
  revertIf ((s.identities wallet).status = .none) .identityNotRegistered
  revertIf ((s.identities wallet).status = .deactivated) .sameStatus
  transition msg wallet .deactivated reason s

/-- The writes of `_recordDidDocumentUpdate`, which the self-service path repeats in its body. -/
def recordDidDocumentUpdate (wallet : Address) (documentHash : Bytes32) (reason : String)
    (s : SampraanIdentityRegistry) : Result SampraanIdentityRegistry := do
  let record := s.identities wallet
  let version ← checkedAdd (s.didDocumentVersion wallet) 1
  let s :=
    { s with
      didDocumentVersion := Function.update s.didDocumentVersion wallet version
      didDocumentHash := Function.update s.didDocumentHash wallet
        (Function.update (s.didDocumentHash wallet) version documentHash)
      currentDidDocumentHash := Function.update s.currentDidDocumentHash wallet documentHash }
  let s := s.pushEvent wallet
    { fromStatus := record.status
      toStatus := record.status
      actor := msg.sender
      reason := reason
      atTime := uint64 msg.timestamp }
  let lifecycleCount ← checkedAdd (s.lifecycleCount wallet) 1
  pure (s.setLifecycleCount wallet lifecycleCount)

def updateDidDocumentHash (documentHash : Bytes32) (reason : String)
    (s : SampraanIdentityRegistry) : Result SampraanIdentityRegistry := do
  revertIf (documentHash = 0) .emptyDocumentHash
  revertIf ((s.identities msg.sender).status = .none) .identityNotRegistered
  revertIf ((s.identities msg.sender).status = .suspended ∨
    (s.identities msg.sender).status = .deactivated) .invalidStatus
  recordDidDocumentUpdate msg msg.sender documentHash reason s

def updateDidDocumentHashFor (wallet : Address) (documentHash : Bytes32) (reason : String)
    (s : SampraanIdentityRegistry) : Result SampraanIdentityRegistry := do
  onlyIdentityAdmin roles msg
  revertIf (documentHash = 0) .emptyDocumentHash
  revertIf (reason = "") .zeroReason
  revertIf ((s.identities wallet).status = .none) .identityNotRegistered
  revertIf ((s.identities wallet).status = .suspended ∨
    (s.identities wallet).status = .deactivated) .invalidStatus
  recordDidDocumentUpdate msg wallet documentHash reason s

def isActive (s : SampraanIdentityRegistry) (wallet : Address) : Bool :=
  decide ((s.identities wallet).status = .verified)

inductive Call where
  | registerIdentity (wallet : Address) (didDigest publicKeyDigest : Bytes32)
  | verifyIdentity (wallet : Address) (reason : String)
  | suspendIdentity (wallet : Address) (reason : String)
  | reactivateIdentity (wallet : Address) (reason : String)
  | governanceDeactivateIdentity (wallet : Address) (reason : String)
  | updateDidDocumentHash (documentHash : Bytes32) (reason : String)
  | updateDidDocumentHashFor (wallet : Address) (documentHash : Bytes32) (reason : String)
  | governanceGrantRole (role : Bytes32) (account : Address)
  | governanceRevokeRole (role : Bytes32) (account : Address)
  | governanceBurnNFT (tokenId : ℕ) (reason : String)
  | governanceForceTransfer (tokenId : ℕ) (toCustodian : Address) (reason : String)
  | governancePause
  | governanceUnpause
  deriving DecidableEq

def run (s : SampraanIdentityRegistry) : Call → Result SampraanIdentityRegistry
  | .registerIdentity wallet didDigest publicKeyDigest =>
    registerIdentity roles msg wallet didDigest publicKeyDigest s
  | .verifyIdentity wallet reason => verifyIdentity roles msg wallet reason s
  | .suspendIdentity wallet reason => suspendIdentity roles msg wallet reason s
  | .reactivateIdentity wallet reason => reactivateIdentity roles msg wallet reason s
  | .governanceDeactivateIdentity wallet reason =>
    governanceDeactivateIdentity governance msg wallet reason s
  | .updateDidDocumentHash documentHash reason => updateDidDocumentHash msg documentHash reason s
  | .updateDidDocumentHashFor wallet documentHash reason =>
    updateDidDocumentHashFor roles msg wallet documentHash reason s
  | .governanceGrantRole .. | .governanceRevokeRole .. | .governanceBurnNFT ..
  | .governanceForceTransfer .. | .governancePause | .governanceUnpause => throw .invalidStatus

def machine : Machine (Roles × Msg × Call) SampraanIdentityRegistry Revert where
  run k s := run governance k.1 k.2.1 s k.2.2

/-! ### What a call does -/

structure Keeps (wallet : Address) (s t : SampraanIdentityRegistry) : Prop where
  identities : ∀ w, w ≠ wallet → t.identities w = s.identities w
  lifecycle : ∀ w, w ≠ wallet → t.lifecycle w = s.lifecycle w
  lifecycleCount : ∀ w, w ≠ wallet → t.lifecycleCount w = s.lifecycleCount w

structure KeepsDocuments (s t : SampraanIdentityRegistry) : Prop where
  version : t.didDocumentVersion = s.didDocumentVersion
  hash : t.didDocumentHash = s.didDocumentHash
  current : t.currentDidDocumentHash = s.currentDidDocumentHash

/-- A new PENDING record, its digest's owner and the first entry of its log. -/
structure Registers (wallet : Address) (didDigest : Bytes32) (s t : SampraanIdentityRegistry) :
    Prop extends Keeps wallet s t, KeepsDocuments s t where
  wallet_ne : wallet ≠ 0
  fresh : (s.identities wallet).status = .none ∧ s.didOwners didDigest = 0
  record : (t.identities wallet).status = .pending ∧ (t.identities wallet).didDigest = didDigest
  owners : t.didOwners = Function.update s.didOwners didDigest wallet
  log : ∃ e, t.lifecycle wallet = s.lifecycle wallet ++ [e] ∧ e.fromStatus = .none ∧
    e.toStatus = .pending
  count : t.lifecycleCount wallet = 1

/-- The record takes the status and the log one entry for it. -/
structure Transitions (wallet : Address) (newStatus : IdentityStatus) (s t : SampraanIdentityRegistry) :
    Prop extends Keeps wallet s t, KeepsDocuments s t where
  record : t.identities wallet = { s.identities wallet with
    status := newStatus, statusChangedAt := (t.identities wallet).statusChangedAt }
  owners : t.didOwners = s.didOwners
  log : ∃ e, t.lifecycle wallet = s.lifecycle wallet ++ [e] ∧
    e.fromStatus = (s.identities wallet).status ∧ e.toStatus = newStatus
  count : t.lifecycleCount wallet = s.lifecycleCount wallet + 1

/-- A next document version, and a log entry that keeps the status. -/
structure Documents (wallet : Address) (documentHash : Bytes32) (s t : SampraanIdentityRegistry) :
    Prop extends Keeps wallet s t where
  hash_ne : documentHash ≠ 0
  status : (s.identities wallet).status = .pending ∨ (s.identities wallet).status = .verified
  record : t.identities wallet = s.identities wallet
  owners : t.didOwners = s.didOwners
  log : ∃ e, t.lifecycle wallet = s.lifecycle wallet ++ [e] ∧
    e.fromStatus = (s.identities wallet).status ∧ e.toStatus = (s.identities wallet).status
  count : t.lifecycleCount wallet = s.lifecycleCount wallet + 1
  version : t.didDocumentVersion =
    Function.update s.didDocumentVersion wallet (s.didDocumentVersion wallet + 1)
  hash : t.didDocumentHash = Function.update s.didDocumentHash wallet
    (Function.update (s.didDocumentHash wallet) (s.didDocumentVersion wallet + 1) documentHash)
  current : t.currentDidDocumentHash =
    Function.update s.currentDidDocumentHash wallet documentHash

variable {governance roles msg} {wallet : Address} {newStatus : IdentityStatus} {reason : String}
  {documentHash : Bytes32} {s t : SampraanIdentityRegistry}

theorem transition_ok (h : transition msg wallet newStatus reason s = .ok t) :
    Transitions wallet newStatus s t := by
  simp only [transition, checkedAdd_bind, pure_eq_ok] at h
  obtain ⟨-, rfl⟩ := h
  constructor
  case toKeeps =>
    constructor <;> intro w hw <;> simp [setLifecycleCount, pushEvent, setRecord, hw]
  case toKeepsDocuments => exact ⟨rfl, rfl, rfl⟩
  case owners => rfl
  case log => exact ⟨_, lifecycle_pushEvent .., rfl, rfl⟩
  all_goals simp [setLifecycleCount, pushEvent, setRecord]

theorem recordDidDocumentUpdate_ok (hne : documentHash ≠ 0)
    (hstatus : (s.identities wallet).status = .pending ∨ (s.identities wallet).status = .verified)
    (h : recordDidDocumentUpdate msg wallet documentHash reason s = .ok t) :
    Documents wallet documentHash s t := by
  simp only [recordDidDocumentUpdate, checkedAdd_bind, pure_eq_ok] at h
  obtain ⟨-, -, rfl⟩ := h
  constructor
  case toKeeps => constructor <;> intro w hw <;> simp [setLifecycleCount, pushEvent, hw]
  case hash_ne => exact hne
  case status => exact hstatus
  case log => exact ⟨_, lifecycle_pushEvent .., rfl, rfl⟩
  case count => simp [setLifecycleCount, pushEvent]
  all_goals rfl

theorem registerIdentity_ok {didDigest publicKeyDigest : Bytes32}
    (h : registerIdentity roles msg wallet didDigest publicKeyDigest s = .ok t) :
    roles identityAdminRole msg.sender = true ∧ Registers wallet didDigest s t := by
  simp only [registerIdentity, onlyIdentityAdmin, revertIf_bind, pure_eq_ok, not_not] at h
  obtain ⟨hadmin, hwallet, -, hnone, howner, rfl⟩ := h
  refine ⟨hadmin, ?_⟩
  constructor
  case toKeeps =>
    constructor <;> intro w hw <;> simp [setLifecycleCount, pushEvent, setRecord, hw]
  case toKeepsDocuments => exact ⟨rfl, rfl, rfl⟩
  case wallet_ne => exact hwallet
  case fresh => exact ⟨hnone, howner⟩
  case owners => rfl
  case log => exact ⟨_, lifecycle_pushEvent .., rfl, rfl⟩
  all_goals simp [setLifecycleCount, pushEvent, setRecord]

/-- The status changes that the calls make, and who may make them. -/
inductive Moves (governance : Address) (roles : Roles) (sender : Address) :
    IdentityStatus → IdentityStatus → Prop
  | verify (h : roles identityAdminRole sender = true) :
    Moves governance roles sender .pending .verified
  | suspend (h : roles identityAdminRole sender = true) :
    Moves governance roles sender .verified .suspended
  | reactivate (h : roles identityAdminRole sender = true) :
    Moves governance roles sender .suspended .verified
  | deactivate {status : IdentityStatus} (h : sender = governance) (hnone : status ≠ .none)
    (hdone : status ≠ .deactivated) : Moves governance roles sender status .deactivated

inductive Effect (governance : Address) (roles : Roles) (sender : Address)
    (s t : SampraanIdentityRegistry) : Prop
  | register (wallet : Address) (didDigest : Bytes32) (h : Registers wallet didDigest s t)
    (hadmin : roles identityAdminRole sender = true)
  | move (wallet : Address) (newStatus : IdentityStatus) (h : Transitions wallet newStatus s t)
    (hmove : Moves governance roles sender (s.identities wallet).status newStatus)
  | document (wallet : Address) (documentHash : Bytes32) (h : Documents wallet documentHash s t)
    (hcaller : sender = wallet ∨ roles identityAdminRole sender = true)

theorem documentable {status : IdentityStatus} (hnone : status ≠ .none)
    (hbarred : ¬ (status = .suspended ∨ status = .deactivated)) :
    status = .pending ∨ status = .verified := by
  cases status <;> simp_all

theorem run_effect {call : Call} (h : run governance roles msg s call = .ok t) :
    Effect governance roles msg.sender s t := by
  cases call with
  | registerIdentity wallet didDigest publicKeyDigest =>
    obtain ⟨hadmin, hregisters⟩ := registerIdentity_ok h
    exact .register wallet didDigest hregisters hadmin
  | verifyIdentity wallet reason =>
    simp only [run, verifyIdentity, onlyIdentityAdmin, revertIf_bind, not_not] at h
    obtain ⟨hadmin, -, hstatus, h⟩ := h
    exact .move wallet .verified (transition_ok h) (hstatus ▸ .verify hadmin)
  | suspendIdentity wallet reason =>
    simp only [run, suspendIdentity, onlyIdentityAdmin, revertIf_bind, not_not] at h
    obtain ⟨hadmin, -, hstatus, h⟩ := h
    exact .move wallet .suspended (transition_ok h) (hstatus ▸ .suspend hadmin)
  | reactivateIdentity wallet reason =>
    simp only [run, reactivateIdentity, onlyIdentityAdmin, revertIf_bind, not_not] at h
    obtain ⟨hadmin, -, hstatus, h⟩ := h
    exact .move wallet .verified (transition_ok h) (hstatus ▸ .reactivate hadmin)
  | governanceDeactivateIdentity wallet reason =>
    simp only [run, governanceDeactivateIdentity, revertIf_bind, not_not] at h
    obtain ⟨hsender, -, hnone, hdone, h⟩ := h
    exact .move wallet .deactivated (transition_ok h) (.deactivate hsender hnone hdone)
  | updateDidDocumentHash documentHash reason =>
    simp only [run, updateDidDocumentHash, revertIf_bind] at h
    obtain ⟨hhash, hnone, hbarred, h⟩ := h
    exact .document msg.sender documentHash
      (recordDidDocumentUpdate_ok hhash (documentable hnone hbarred) h) (.inl rfl)
  | updateDidDocumentHashFor wallet documentHash reason =>
    simp only [run, updateDidDocumentHashFor, onlyIdentityAdmin, revertIf_bind, not_not] at h
    obtain ⟨hadmin, hhash, -, hnone, hbarred, h⟩ := h
    exact .document wallet documentHash
      (recordDidDocumentUpdate_ok hhash (documentable hnone hbarred) h) (.inr hadmin)
  | _ => cases h

end SampraanIdentityRegistry

end Sampraan.Contracts
