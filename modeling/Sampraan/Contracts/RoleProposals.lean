import Sampraan.Contracts.AccessControl
import Sampraan.Contracts.Approvals

/-! Role proposals: the governance contract with `SampraanAccessControl` as its target. -/

namespace Sampraan.Contracts

open Library

/-! ### Calls between contracts -/

abbrev Selector := BitVec 32

inductive Argument where
  | word (w : Bytes32)
  | text (s : String)
  deriving DecidableEq

def Argument.ofAddress (a : Address) : Argument := .word (a.setWidth 256)

structure Calldata where
  selector : Selector
  arguments : List Argument
  deriving DecidableEq

/-- sampraanGovernanceTargetVersion() -/
def versionCalldata : Calldata := { selector := 0x53179225, arguments := [] }

def TargetCall.calldata : TargetCall → Calldata
  -- governanceGrantRole(bytes32,address)
  | .governanceGrantRole role account => ⟨0x8c475ddf, [.word role, .ofAddress account]⟩
  -- governanceRevokeRole(bytes32,address)
  | .governanceRevokeRole role account => ⟨0x53f7bbf0, [.word role, .ofAddress account]⟩
  -- governanceBurnNFT(uint256,string)
  | .governanceBurnNFT tokenId reason => ⟨0xf7f7a109, [.word (.ofNat 256 tokenId), .text reason]⟩
  -- governanceForceTransfer(uint256,address,string)
  | .governanceForceTransfer tokenId toCustodian reason =>
    ⟨0x7a031be5, [.word (.ofNat 256 tokenId), .ofAddress toCustodian, .text reason]⟩
  -- governancePause()
  | .governancePause => ⟨0xe3130527, []⟩
  -- governanceUnpause()
  | .governanceUnpause => ⟨0xd108ca7f, []⟩
  -- governanceDeactivateIdentity(address,string)
  | .governanceDeactivateIdentity wallet reason => ⟨0x98426959, [.ofAddress wallet, .text reason]⟩

namespace SampraanAccessControl

inductive Function where
  | supportsInterface
  | hasRole
  | getRoleAdmin
  | grantRole
  | revokeRole
  | renounceRole
  | defaultAdminRole
  | identityAdminRole
  | assetManagerRole
  | auditorRole
  | adminHolderCount
  deriving DecidableEq

/-- The dispatch table: every external function, inherited ones included. -/
def functions : List (Selector × Function) :=
  [(0x01ffc9a7, .supportsInterface), -- supportsInterface(bytes4)
    (0x91d14854, .hasRole), -- hasRole(bytes32,address)
    (0x248a9ca3, .getRoleAdmin), -- getRoleAdmin(bytes32)
    (0x2f2ff15d, .grantRole), -- grantRole(bytes32,address)
    (0xd547741f, .revokeRole), -- revokeRole(bytes32,address)
    (0x36568abe, .renounceRole), -- renounceRole(bytes32,address)
    (0xa217fddf, .defaultAdminRole), -- DEFAULT_ADMIN_ROLE()
    (0x1aaff63c, .identityAdminRole), -- IDENTITY_ADMIN_ROLE()
    (0xa4b32de8, .assetManagerRole), -- ASSET_MANAGER_ROLE()
    (0x6e1d616e, .auditorRole), -- AUDITOR_ROLE()
    (0x6200f6ff, .adminHolderCount)] -- adminHolderCount()

/-- A word with bits above the address does not decode. -/
def decodeAddress (w : Bytes32) : Result Address := do
  revertIf (2 ^ 160 ≤ w.toNat) .functionNotFound
  pure (w.setWidth 160)

def ofBool (b : Bool) : Bytes32 := if b then 1 else 0

/-- The interface ids of `IAccessControl` and `IERC165`. -/
def supportsInterface (interfaceId : BitVec 32) : Bool :=
  interfaceId = 0x7965db0b ∨ interfaceId = 0x01ffc9a7

/-- The state after a call of the function, and the words that it returns. -/
def perform (msg : Msg) (s : SampraanAccessControl) :
    Function → List Argument → Result (SampraanAccessControl × List Bytes32)
  | .supportsInterface, .word interfaceId :: _ => do
    revertIf (interfaceId.extractLsb' 0 224 ≠ 0) .functionNotFound
    pure (s, [ofBool (supportsInterface (interfaceId.extractLsb' 224 32))])
  | .hasRole, .word role :: .word account :: _ => do
    let account ← decodeAddress account
    pure (s, [ofBool (s.hasRole role account)])
  | .getRoleAdmin, .word role :: _ => pure (s, [getRoleAdmin role])
  | .grantRole, .word role :: .word account :: _ => do
    let account ← decodeAddress account
    let s ← run msg (.grantRole role account) s
    pure (s, [])
  | .revokeRole, .word role :: .word account :: _ => do
    let account ← decodeAddress account
    let s ← run msg (.revokeRole role account) s
    pure (s, [])
  | .renounceRole, .word role :: .word callerConfirmation :: _ => do
    let callerConfirmation ← decodeAddress callerConfirmation
    let s ← run msg (.renounceRole role callerConfirmation) s
    pure (s, [])
  | .defaultAdminRole, _ => pure (s, [Contracts.defaultAdminRole])
  | .identityAdminRole, _ => pure (s, [Contracts.identityAdminRole])
  | .assetManagerRole, _ => pure (s, [Contracts.assetManagerRole])
  | .auditorRole, _ => pure (s, [Contracts.auditorRole])
  | .adminHolderCount, _ => pure (s, [.ofNat 256 s.adminHolderCount])
  | _, _ => throw .functionNotFound

/-- The contract has no fallback function. -/
def receive (msg : Msg) (data : Calldata) (s : SampraanAccessControl) :
    Result (SampraanAccessControl × List Bytes32) :=
  match functions.lookup data.selector with
  | some function => perform msg s function data.arguments
  | none => throw .functionNotFound

variable {msg : Msg} {s : SampraanAccessControl}

/-- No function of the governance target interface is in the dispatch table. -/
theorem receive_targetCall (call : TargetCall) :
    receive msg call.calldata s = .error .functionNotFound := by
  cases call <;> rfl

theorem receive_version : receive msg versionCalldata s = .error .functionNotFound := rfl

end SampraanAccessControl

/-! ### The two contracts together -/

structure Multisig where
  governance : SampraanGovernance
  accessControl : SampraanAccessControl

namespace Multisig

/-- How the role contract answers the version probe of the governance contract. -/
def probe (governance : Address) (msg : Msg) (s : SampraanAccessControl) : Probe :=
  match s.receive { msg with sender := governance } versionCalldata with
  | .ok (_, [version]) => .version version.toNat
  | .ok _ => .unanswered
  | .error _ => .reverts

variable (governance accessControl : Address)

def propose (msg : Msg) (kind : OpKind) (role : Bytes32) (account : Address) (tokenId : ℕ)
    (reason : String) (w : Multisig) : Result Multisig := do
  let s ← SampraanGovernance.propose msg kind accessControl role account tokenId reason
    (probe governance msg w.accessControl) w.governance
  pure { w with governance := s }

/-- An execution whose target is the role contract, which runs on the governance contract's
behalf. -/
def execute (msg : Msg) (id : ℕ) (w : Multisig) : Result Multisig := do
  let (s, _, call) ← SampraanGovernance.execute msg id w.governance
  let (t, _) ← w.accessControl.receive { msg with sender := governance } call.calldata
  pure { governance := s, accessControl := t }

/-! ### Role changes through governance -/

def roleKind (grant : Bool) : OpKind := if grant then .grantRole else .revokeRole

def roleCall (grant : Bool) (role : Bytes32) (account : Address) : SampraanAccessControl.Call :=
  if grant then .grantRole role account else .revokeRole role account

/-- The role change can be proposed, and executing such a proposal when its time has come is
calling the role contract directly. -/
structure RoleChangeExecutable (grant : Bool) (role : Bytes32) (account : Address) (tokenId : ℕ)
    (reason : String) (msg : Msg) (w : Multisig) : Prop where
  proposed : ∃ v, propose governance accessControl msg (roleKind grant) role account tokenId
    reason w = .ok v
  executed : ∀ (v : Multisig) (msg : Msg) (id : ℕ),
    v.accessControl.hasRole defaultAdminRole governance = true →
      v.governance.terms id = (roleKind grant, accessControl, role, account, tokenId, reason) →
        SampraanGovernance.Executable msg id v.governance →
          execute governance msg id v =
            (SampraanAccessControl.run { msg with sender := governance }
              (roleCall grant role account) v.accessControl).map
                fun t => { governance := v.governance.markExecuted id, accessControl := t }

variable {governance accessControl : Address} {msg : Msg} {w : Multisig} {id tokenId : ℕ}
  {kind : OpKind} {role : Bytes32} {account : Address} {reason : String}

theorem probe_reverts {s : SampraanAccessControl} : probe governance msg s = .reverts := by
  rw [probe, SampraanAccessControl.receive_version]

theorem propose_reverts (v : Multisig) :
    propose governance accessControl msg kind role account tokenId reason w ≠ .ok v := by
  intro h
  obtain ⟨s, hs, -⟩ := bind_eq_ok.mp h
  obtain ⟨-, -, -, hprobe, -⟩ := SampraanGovernance.propose_ok hs
  rw [probe_reverts] at hprobe
  cases hprobe

/-- Had such a proposal been stored, its execution would revert. -/
theorem execute_reverts (v : Multisig) : execute governance msg id w ≠ .ok v := by
  intro h
  obtain ⟨⟨s, target, call⟩, -, h⟩ := bind_eq_ok.mp h
  obtain ⟨⟨t, words⟩, hreceive, -⟩ := bind_eq_ok.mp h
  rw [SampraanAccessControl.receive_targetCall] at hreceive
  cases hreceive

theorem not_roleChangeExecutable (grant : Bool) :
    ¬ RoleChangeExecutable governance accessControl grant role account tokenId reason msg w := by
  intro h
  obtain ⟨v, hv⟩ := h.proposed
  exact propose_reverts v hv

/-- A signer proposes to make an account identity administrator, which governance could do itself. -/
theorem not_roleChangeExecutable_sample : ∃ s c c',
    SampraanGovernance.deploy 0xAC [0x51, 0x52, 0x53] 66 0 0xAD = .ok s ∧
      c.hasRole defaultAdminRole 0x60 = true ∧
        SampraanAccessControl.run { sender := 0x60, timestamp := 1700000000 }
          (roleCall true identityAdminRole 0xBEEF) c = .ok c' ∧
          ¬ RoleChangeExecutable 0x60 0xAC true identityAdminRole 0xBEEF 0 "new operator"
            (SampraanGovernance.sampleSigner 0) { governance := s, accessControl := c } := by
  obtain ⟨s, hdeploy, herror⟩ : ∃ s,
      SampraanGovernance.deploy 0xAC [0x51, 0x52, 0x53] 66 0 0xAD = .ok s ∧
        propose 0x60 0xAC (SampraanGovernance.sampleSigner 0) .grantRole identityAdminRole 0xBEEF 0
          "new operator" { governance := s, accessControl := ⟨fun _ a => a = 0x60, 1⟩ } =
            .error .invalidTarget := ⟨_, rfl, rfl⟩
  refine ⟨s, ⟨fun _ a => a = 0x60, 1⟩, _, hdeploy, rfl, rfl, fun h => ?_⟩
  obtain ⟨v, hv⟩ := h.proposed
  rw [show roleKind true = .grantRole from rfl, herror] at hv
  cases hv

end Multisig

/-! ### Every run -/

namespace SampraanGovernance

def AnsweredBy (governance accessControl : Address) (k : Msg × Call) : Prop :=
  ∀ kind role account tokenId reason probe,
    k.2 = .propose kind accessControl role account tokenId reason probe →
      ∃ s, probe = Multisig.probe governance k.1 s

variable {governance accessControl admin : Address} {signers : List Address}
  {quorumPercent delaySeconds id : ℕ} {s₀ : SampraanGovernance}
  {log : List (((Msg × Call) × Behaviour (Msg × Call) Revert) ×
    Machine.Ledger (Msg × Call) SampraanGovernance × Machine.Ledger (Msg × Call) SampraanGovernance)}
  {w : Machine.Ledger (Msg × Call) SampraanGovernance}

/-- No proposal has the role contract as its target, so governance never changes a role. -/
theorem proposalTarget_ne_accessControl
    (h₀ : deploy accessControl signers quorumPercent delaySeconds admin = .ok s₀)
    (hr : system.Run (fun _ _ => True) (s₀, []) log w)
    (hanswered : ∀ e ∈ w.2, AnsweredBy governance accessControl e.1) (hid : Allocated id w.1) :
    w.1.proposalTarget id ≠ accessControl := by
  intro htarget
  have hlinear : machine.Run (fun _ _ => True) s₀ w.2 w.1 := hr.linear
  obtain ⟨e, he, kind, target, role, account, tokenId, reason, probe, hcall, -, hterms⟩ :=
    exists_creates (deploy_ok h₀).2.count hlinear hid.1 hid.2
  obtain ⟨-, -, hrun⟩ := hlinear.mem (I := fun _ => True) trivial (fun _ _ _ _ _ _ => trivial) he
  have hdoes := run_does hrun
  rw [hcall] at hdoes
  obtain rfl : target = accessControl := by
    rw [← htarget]
    exact congrArg (fun x => x.2.1) hterms.symm
  obtain ⟨s, hprobe⟩ := hanswered e he _ _ _ _ _ _ hcall
  rw [Multisig.probe_reverts] at hprobe
  rw [hprobe] at hdoes
  cases hdoes.2.2.2.1

end SampraanGovernance

end Sampraan.Contracts
