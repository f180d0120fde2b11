import Sampraan.Contracts.Evm
import Sampraan.Library.Reentrancy
import Mathlib.Data.Set.Card

/-! `SampraanGovernance.sol`. -/

namespace Sampraan.Contracts

open Library

inductive OpKind where
  | none
  | grantRole
  | revokeRole
  | burnNft
  | forceTransfer
  | pauseRegistry
  | unpauseRegistry
  | deactivateIdentity
  deriving DecidableEq

/-- The calls of `ISampraanGovernanceTarget` that change state. -/
inductive TargetCall where
  | governanceGrantRole (role : Bytes32) (account : Address)
  | governanceRevokeRole (role : Bytes32) (account : Address)
  | governanceBurnNFT (tokenId : ℕ) (reason : String)
  | governanceForceTransfer (tokenId : ℕ) (toCustodian : Address) (reason : String)
  | governancePause
  | governanceUnpause
  | governanceDeactivateIdentity (wallet : Address) (reason : String)
  deriving DecidableEq

/-- How a target answers `sampraanGovernanceTargetVersion`; `unanswered` is an address without code
or an answer that does not decode, which the `catch` does not see. -/
inductive Probe where
  | version (v : ℕ)
  | reverts
  | unanswered
  deriving DecidableEq

structure SampraanGovernance where
  accessControl : Address
  signers : List Address
  isSigner : Address → Bool
  governanceAdmin : Address
  quorumPercent : ℕ
  timelockDelaySeconds : ℕ
  proposalCount : ℕ
  proposalKind : ℕ → OpKind
  proposalTarget : ℕ → Address
  proposalRole : ℕ → Bytes32
  proposalAccount : ℕ → Address
  proposalTokenId : ℕ → ℕ
  proposalReason : ℕ → String
  proposalCreatedAt : ℕ → ℕ
  proposalApprovals : ℕ → ℕ
  proposalExecuted : ℕ → Bool
  proposalCancelled : ℕ → Bool
  proposalApprovedBy : ℕ → Address → Bool

namespace SampraanGovernance

variable (msg : Msg)

/-! ### Configuration -/

def setQuorumPercent (quorumPercent : ℕ) (s : SampraanGovernance) : Result SampraanGovernance := do
  revertIf (quorumPercent = 0 ∨ 100 < quorumPercent) .quorumOutOfRange
  pure { s with quorumPercent := quorumPercent }

def setDelay (delaySeconds : ℕ) (s : SampraanGovernance) : SampraanGovernance :=
  { s with timelockDelaySeconds := delaySeconds }

def onlySigner (s : SampraanGovernance) : Result Unit := revertIf (¬ s.isSigner msg.sender) .notSigner

def onlyGovernanceAdmin (s : SampraanGovernance) : Result Unit :=
  revertIf (msg.sender ≠ s.governanceAdmin) .notGovernanceAdmin

/-- The loop of the constructor. -/
def addSigners : List Address → SampraanGovernance → Result SampraanGovernance
  | [], s => pure s
  | signer :: signers, s => do
    revertIf (signer = 0) .zeroAddress
    revertIf (s.isSigner signer) .zeroSigners
    addSigners signers
      { s with
        isSigner := Function.update s.isSigner signer true
        signers := s.signers ++ [signer] }

def blank (accessControl governanceAdmin : Address) : SampraanGovernance where
  accessControl := accessControl
  signers := []
  isSigner _ := false
  governanceAdmin := governanceAdmin
  quorumPercent := 0
  timelockDelaySeconds := 0
  proposalCount := 0
  proposalKind _ := .none
  proposalTarget _ := 0
  proposalRole _ := 0
  proposalAccount _ := 0
  proposalTokenId _ := 0
  proposalReason _ := ""
  proposalCreatedAt _ := 0
  proposalApprovals _ := 0
  proposalExecuted _ := false
  proposalCancelled _ := false
  proposalApprovedBy _ _ := false

def deploy (accessControl : Address) (signers : List Address) (quorumPercent delaySeconds : ℕ)
    (admin : Address) : Result SampraanGovernance := do
  revertIf (accessControl = 0) .zeroAddress
  revertIf (signers.length = 0) .zeroSigners
  revertIf (admin = 0) .zeroAddress
  let s ← addSigners signers (blank accessControl admin)
  let s ← setQuorumPercent quorumPercent s
  pure (setDelay delaySeconds s)

def quorumRequired (s : SampraanGovernance) : ℕ := (s.signers.length * s.quorumPercent + 99) / 100

def setQuorum (quorumPercent : ℕ) (s : SampraanGovernance) : Result SampraanGovernance := do
  onlyGovernanceAdmin msg s
  setQuorumPercent quorumPercent s

def setTimelockDelay (delaySeconds : ℕ) (s : SampraanGovernance) : Result SampraanGovernance := do
  onlyGovernanceAdmin msg s
  pure (setDelay delaySeconds s)

/-! ### Proposals -/

def probeVersion : Probe → Result Unit
  | .version v => revertIf (v ≠ 1) .invalidTarget
  | .reverts => throw .invalidTarget
  | .unanswered => throw .functionNotFound

def storeProposal (id : ℕ) (kind : OpKind) (target : Address) (role : Bytes32) (account : Address)
    (tokenId : ℕ) (reason : String) (createdAt : ℕ) (s : SampraanGovernance) :
    SampraanGovernance :=
  { s with
    proposalCount := id
    proposalKind := Function.update s.proposalKind id kind
    proposalTarget := Function.update s.proposalTarget id target
    proposalRole := Function.update s.proposalRole id role
    proposalAccount := Function.update s.proposalAccount id account
    proposalTokenId := Function.update s.proposalTokenId id tokenId
    proposalReason := Function.update s.proposalReason id reason
    proposalCreatedAt := Function.update s.proposalCreatedAt id createdAt }

def propose (kind : OpKind) (target : Address) (role : Bytes32) (account : Address) (tokenId : ℕ)
    (reason : String) (probe : Probe) (s : SampraanGovernance) : Result SampraanGovernance := do
  onlySigner msg s
  revertIf (kind = .none) .invalidKind
  revertIf (target = 0) .zeroAddress
  probeVersion probe
  let id ← checkedAdd s.proposalCount 1
  pure (s.storeProposal id kind target role account tokenId reason (uint64 msg.timestamp))

def addApproval (id : ℕ) (signer : Address) (s : SampraanGovernance) : SampraanGovernance :=
  { s with
    proposalApprovedBy := Function.update s.proposalApprovedBy id
      (Function.update (s.proposalApprovedBy id) signer true)
    proposalApprovals := Function.update s.proposalApprovals id (s.proposalApprovals id + 1) }

/-- The id need not have been allocated. -/
def approve (id : ℕ) (s : SampraanGovernance) : Result SampraanGovernance := do
  onlySigner msg s
  revertIf (s.proposalExecuted id ∨ s.proposalCancelled id) .proposalNotPending
  revertIf (s.proposalApprovedBy id msg.sender) .alreadyApproved
  let _ ← checkedAdd (s.proposalApprovals id) 1
  pure (s.addApproval id msg.sender)

def markCancelled (id : ℕ) (s : SampraanGovernance) : SampraanGovernance :=
  { s with proposalCancelled := Function.update s.proposalCancelled id true }

def cancel (id : ℕ) (s : SampraanGovernance) : Result SampraanGovernance := do
  onlySigner msg s
  revertIf (s.proposalExecuted id) .alreadyExecuted
  revertIf (s.proposalCancelled id) .alreadyCancelled
  pure (s.markCancelled id)

def markExecuted (id : ℕ) (s : SampraanGovernance) : SampraanGovernance :=
  { s with proposalExecuted := Function.update s.proposalExecuted id true }

def targetCall (id : ℕ) (s : SampraanGovernance) : Result TargetCall :=
  match s.proposalKind id with
  | .grantRole => pure (.governanceGrantRole (s.proposalRole id) (s.proposalAccount id))
  | .revokeRole => pure (.governanceRevokeRole (s.proposalRole id) (s.proposalAccount id))
  | .burnNft => pure (.governanceBurnNFT (s.proposalTokenId id) (s.proposalReason id))
  | .forceTransfer => pure (.governanceForceTransfer (s.proposalTokenId id) (s.proposalAccount id)
      (s.proposalReason id))
  | .pauseRegistry => pure .governancePause
  | .unpauseRegistry => pure .governanceUnpause
  | .deactivateIdentity =>
    pure (.governanceDeactivateIdentity (s.proposalAccount id) (s.proposalReason id))
  | .none => throw .invalidKind

/-- Up to the call of the target, which comes last. -/
def execute (id : ℕ) (s : SampraanGovernance) :
    Result (SampraanGovernance × Address × TargetCall) := do
  onlySigner msg s
  revertIf (s.proposalExecuted id) .alreadyExecuted
  revertIf (s.proposalCancelled id) .proposalNotPending
  revertIf (s.proposalApprovals id < s.quorumRequired) .notApprovedEnough
  let executableAt ← checkedAdd (s.proposalCreatedAt id) s.timelockDelaySeconds
  revertIf (msg.timestamp < executableAt) .timelockNotElapsed
  let s := s.markExecuted id
  let call ← targetCall id s
  pure (s, s.proposalTarget id, call)

/-! ### The contract -/

/-- The external functions that are not views; a call of `propose` comes with its target's answer. -/
inductive Call where
  | propose (kind : OpKind) (target : Address) (role : Bytes32) (account : Address) (tokenId : ℕ)
    (reason : String) (probe : Probe)
  | approve (id : ℕ) (reason : String)
  | cancel (id : ℕ) (reason : String)
  | execute (id : ℕ)
  | setQuorum (quorumPercent : ℕ)
  | setTimelockDelay (delaySeconds : ℕ)
  deriving DecidableEq

def run (s : SampraanGovernance) : Call → Result SampraanGovernance
  | .propose kind target role account tokenId reason probe =>
    propose msg kind target role account tokenId reason probe s
  | .approve id _ => approve msg id s
  | .cancel id _ => cancel msg id s
  | .execute id => do
    let (s, _) ← execute msg id s
    pure s
  | .setQuorum quorumPercent => setQuorum msg quorumPercent s
  | .setTimelockDelay delaySeconds => setTimelockDelay msg delaySeconds s

def machine : Machine (Msg × Call) SampraanGovernance Revert where
  run k s := run k.1 s k.2

def callsTarget (k : Msg × Call) : Bool :=
  match k.2 with
  | .execute _ => true
  | _ => false

/-- The contract among targets that do anything, including calls back into it. -/
def system : Machine ((Msg × Call) × Behaviour (Msg × Call) Revert)
    (Machine.Ledger (Msg × Call) SampraanGovernance) Revert :=
  machine.reentrant callsTarget

/-! ### What a call does -/

variable {msg} {id : ℕ} {s t : SampraanGovernance}

structure Executable (msg : Msg) (id : ℕ) (s : SampraanGovernance) : Prop where
  signer : s.isSigner msg.sender = true
  pending : s.proposalExecuted id = false
  live : s.proposalCancelled id = false
  quorum : s.quorumRequired ≤ s.proposalApprovals id
  bounded : s.proposalCreatedAt id + s.timelockDelaySeconds < 2 ^ 256
  elapsed : s.proposalCreatedAt id + s.timelockDelaySeconds ≤ msg.timestamp
  kind : s.proposalKind id ≠ .none

theorem targetCall_isOk : (∃ call, targetCall id s = .ok call) ↔ s.proposalKind id ≠ .none := by
  unfold targetCall
  cases s.proposalKind id <;> simp [pure, Except.pure, throw, throwThe, MonadExceptOf.throw]

def Call.Does (msg : Msg) (s t : SampraanGovernance) : Call → Prop
  | .propose kind target role account tokenId reason probe =>
    s.isSigner msg.sender = true ∧ kind ≠ .none ∧ target ≠ 0 ∧ probe = .version 1 ∧
      t = s.storeProposal (s.proposalCount + 1) kind target role account tokenId reason
        (uint64 msg.timestamp)
  | .approve id _ =>
    s.isSigner msg.sender = true ∧ s.proposalExecuted id = false ∧
      s.proposalCancelled id = false ∧ s.proposalApprovedBy id msg.sender = false ∧
        t = s.addApproval id msg.sender
  | .cancel id _ =>
    s.isSigner msg.sender = true ∧ s.proposalExecuted id = false ∧
      s.proposalCancelled id = false ∧ t = s.markCancelled id
  | .execute id => Executable msg id s ∧ t = s.markExecuted id
  | .setQuorum quorumPercent => msg.sender = s.governanceAdmin ∧ 1 ≤ quorumPercent ∧
      quorumPercent ≤ 100 ∧ t = { s with quorumPercent := quorumPercent }
  | .setTimelockDelay delaySeconds => msg.sender = s.governanceAdmin ∧ t = setDelay delaySeconds s

def Call.effect (msg : Msg) (s : SampraanGovernance) : Call → SampraanGovernance
  | .propose kind target role account tokenId reason _ =>
    s.storeProposal (s.proposalCount + 1) kind target role account tokenId reason
      (uint64 msg.timestamp)
  | .approve id _ => s.addApproval id msg.sender
  | .cancel id _ => s.markCancelled id
  | .execute id => s.markExecuted id
  | .setQuorum quorumPercent => { s with quorumPercent := quorumPercent }
  | .setTimelockDelay delaySeconds => setDelay delaySeconds s

theorem Call.Does.eq_effect {call : Call} (h : call.Does msg s t) : t = call.effect msg s := by
  cases call with
  | propose kind target role account tokenId reason probe => exact h.2.2.2.2
  | approve id reason => exact h.2.2.2.2
  | cancel id reason => exact h.2.2.2
  | execute id => exact h.2
  | setQuorum quorumPercent => exact h.2.2.2
  | setTimelockDelay delaySeconds => exact h.2

theorem probeVersion_bind {α : Type} {probe : Probe} {k : Unit → Result α} {a : α} :
    (probeVersion probe >>= k) = .ok a ↔ probe = .version 1 ∧ k () = .ok a := by
  cases probe with
  | version v => rw [probeVersion, revertIf_bind, not_not, Probe.version.injEq]
  | reverts => exact iff_of_false nofun nofun
  | unanswered => exact iff_of_false nofun nofun

theorem propose_ok {kind : OpKind} {target : Address} {role : Bytes32} {account : Address}
    {tokenId : ℕ} {reason : String} {probe : Probe}
    (h : propose msg kind target role account tokenId reason probe s = .ok t) :
    (Call.propose kind target role account tokenId reason probe).Does msg s t := by
  simp only [propose, onlySigner, revertIf_bind, probeVersion_bind, checkedAdd_bind, pure_eq_ok,
    not_not] at h
  obtain ⟨hsigner, hkind, htarget, hprobe, -, rfl⟩ := h
  exact ⟨hsigner, hkind, htarget, hprobe, rfl⟩

theorem approve_ok {reason : String} (h : approve msg id s = .ok t) :
    (Call.approve id reason).Does msg s t := by
  simp only [approve, onlySigner, revertIf_bind, checkedAdd_bind, pure_eq_ok, not_or,
    Bool.not_eq_true, Bool.not_eq_false] at h
  obtain ⟨hsigner, ⟨hpending, hlive⟩, hnew, -, rfl⟩ := h
  exact ⟨hsigner, hpending, hlive, hnew, rfl⟩

theorem cancel_ok {reason : String} (h : cancel msg id s = .ok t) :
    (Call.cancel id reason).Does msg s t := by
  simp only [cancel, onlySigner, revertIf_bind, pure_eq_ok, Bool.not_eq_true,
    Bool.not_eq_false] at h
  obtain ⟨hsigner, hpending, hlive, rfl⟩ := h
  exact ⟨hsigner, hpending, hlive, rfl⟩

theorem execute_ok {target : Address} {call : TargetCall}
    (h : execute msg id s = .ok (t, target, call)) :
    Executable msg id s ∧ t = s.markExecuted id := by
  simp only [execute, onlySigner, revertIf_bind, checkedAdd_bind, not_lt, Bool.not_eq_true,
    Bool.not_eq_false] at h
  obtain ⟨hsigner, hpending, hlive, hquorum, hbounded, helapsed, h⟩ := h
  obtain ⟨call', hcall, h⟩ := bind_eq_ok.mp h
  obtain ⟨rfl, -⟩ := Prod.mk.inj (pure_eq_ok.mp h)
  have hkind := targetCall_isOk.mp ⟨call', hcall⟩
  exact ⟨⟨hsigner, hpending, hlive, hquorum, hbounded, helapsed, hkind⟩, rfl⟩

theorem execute_commits (h : Executable msg id s) :
    ∃ call, execute msg id s = .ok (s.markExecuted id, s.proposalTarget id, call) := by
  obtain ⟨call, hcall⟩ := targetCall_isOk.mpr
    (show (s.markExecuted id).proposalKind id ≠ .none from h.kind)
  refine ⟨call, ?_⟩
  simp only [execute, onlySigner, revertIf_bind, checkedAdd_bind, not_lt, Bool.not_eq_true,
    Bool.not_eq_false]
  exact ⟨h.signer, h.pending, h.live, h.quorum, h.bounded, h.elapsed,
    bind_eq_ok.mpr ⟨call, hcall, rfl⟩⟩

theorem setQuorumPercent_ok {quorumPercent : ℕ} (h : setQuorumPercent quorumPercent s = .ok t) :
    1 ≤ quorumPercent ∧ quorumPercent ≤ 100 ∧ t = { s with quorumPercent := quorumPercent } := by
  simp only [setQuorumPercent, revertIf_bind, pure_eq_ok, not_or, not_lt] at h
  obtain ⟨⟨hpos, hle⟩, rfl⟩ := h
  exact ⟨Nat.one_le_iff_ne_zero.mpr hpos, hle, rfl⟩

theorem run_does {call : Call} (h : run msg s call = .ok t) : call.Does msg s t := by
  cases call with
  | propose kind target role account tokenId reason probe => exact propose_ok h
  | approve id reason => exact approve_ok h
  | cancel id reason => exact cancel_ok h
  | execute id =>
    obtain ⟨⟨t', target, call⟩, hexecute, h⟩ := bind_eq_ok.mp h
    obtain rfl := pure_eq_ok.mp h
    exact execute_ok hexecute
  | setQuorum quorumPercent =>
    simp only [run, setQuorum, onlyGovernanceAdmin, revertIf_bind, not_not] at h
    exact ⟨h.1, setQuorumPercent_ok h.2⟩
  | setTimelockDelay delaySeconds =>
    simp only [run, setTimelockDelay, onlyGovernanceAdmin, revertIf_bind, pure_eq_ok, not_not] at h
    exact ⟨h.1, h.2.symm⟩

end SampraanGovernance

end Sampraan.Contracts
