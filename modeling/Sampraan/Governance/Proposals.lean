import Sampraan.Governance.Actors
import Sampraan.Backend.Besu

/-! `proposals.execute` of `governance.router.ts`, with the functions of the chain adapter it calls. -/

namespace Sampraan.Governance.Proposals

open Backend Library CryptoAssurance

variable (env : Environment)

/-! ### The chain adapter -/

/-- Where a proposal stands, as the two views of the governance contract tell. -/
structure ProposalState where
  kind : ℕ
  target : String
  approvals : ℕ
  requiredApprovals : ℕ
  executableAt : ℕ
  executed : Bool
  cancelled : Bool
  deriving DecidableEq

/-- A proposal that does not exist shows the zero values of its mappings. -/
def proposalState (proposalId : ℕ) (ledger : Ledger) : ProposalState :=
  match ledger.proposal proposalId with
  | some proposal =>
    { kind := kindNumber proposal.kind
      target := proposal.target
      approvals := proposal.approvals
      requiredApprovals := ledger.quorumRequired
      executableAt := proposal.createdAt + ledger.timelockDelaySeconds
      executed := proposal.executed
      cancelled := proposal.cancelled }
  | none =>
    { kind := 0
      target := zeroAddress
      approvals := 0
      requiredApprovals := ledger.quorumRequired
      executableAt := ledger.timelockDelaySeconds
      executed := false
      cancelled := false }

def getGovernanceProposal (besu : BesuConfig) (proposalId : ℕ) : Promise ProposalState := do
  Besu.ensureInitialized besu
  requireGovernance besu
  let proposalId ← Besu.encodeUint256 proposalId
  let state ← Besu.view (proposalState proposalId)
  -- whether the operator has approved it
  Besu.view fun _ => ()
  pure state

def executeGovernanceProposal (besu : BesuConfig) (proposalId : ℕ) : Promise String := do
  Besu.ensureInitialized besu
  requireGovernance besu
  let proposalId ← Besu.encodeUint256 proposalId
  Besu.submit besu (.executeProposal proposalId)

/-! ### The procedure -/

/-- The input `/^\d+$/` of the procedures on one proposal. -/
structure ProposalInput where
  proposalId : String
  digits : proposalId ≠ "" ∧ proposalId.toList.all Char.isDigit = true

/-- `BigInt(input.proposalId)`. -/
def ProposalInput.number (input : ProposalInput) : ℕ :=
  input.proposalId.toList.foldl (fun n c => 10 * n + (c.toNat - '0'.toNat)) 0

/-- The checks made for clear errors; the contract makes them again. -/
def assertExecutable (state : ProposalState) (now : ℤ) : Promise Unit :=
  if state.cancelled then throw (.trpc .preconditionFailed "Proposal was cancelled")
  else if state.executed then
    throw (.trpc .preconditionFailed "Proposal already executed (no double execution)")
  else if state.approvals < state.requiredApprovals then
    throw (.trpc .preconditionFailed
      s!"Quorum not reached ({state.approvals}/{state.requiredApprovals})")
  else if now < state.executableAt then
    throw (.trpc .preconditionFailed
      s!"Timelock has not elapsed (executable at {toISOString (state.executableAt * 1000)})")
  else pure ()

def execute (user : Option ℕ) (input : ProposalInput) : Promise String := do
  let actor ← requireActor env user
  assertAdmin actor "Governance execution"
  match env.besu with
  | none => throw governanceUnavailable
  | some besu => do
    let state ← getGovernanceProposal besu input.number
    let now ← Async.query fun w => w.now / 1000
    assertExecutable state now
    let transactionHash ← executeGovernanceProposal besu input.number
    audit env actor.identity.id "GOVERNANCE_PROPOSAL_EXECUTED" "GOVERNANCE" input.proposalId .allow
      s!"Proposal {input.proposalId} executed (kind {state.kind})"
    pure transactionHash

end Sampraan.Governance.Proposals
