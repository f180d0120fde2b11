import Sampraan.CryptoAssurance.Router

/-!
`governance.router.ts`: the assurance gate and the two procedures that submit
governance proposals, with the functions of the chain adapter they call.
-/

namespace Sampraan.Governance

open Backend Library CryptoAssurance

variable (env : Environment)

def audit (actorIdentityId action resourceType resourceId : String) (decision : AuditDecision)
    (reason : String) : Promise Unit :=
  createAuditEvent env
    { actorIdentityId := some actorIdentityId
      action := action
      resourceType := resourceType
      resourceId := resourceId
      decision := decision
      reason := reason }

/-! ### The acting identity and its target -/

/-- Unlike the one of the assurance router, it lets only VERIFIED and ACTIVE identities pass. -/
def requireActor (user : Option ℕ) : Promise Actor := do
  match user with
  | none => throw (.trpc .unauthorized "Authentication required")
  | some id => do
    match ← getIdentityByLinkedUserId env id with
    | none => throw (.trpc .forbidden "No SAMPRAAN identity is linked to this session")
    | some identity =>
      if identity.lifecycleState ≠ .verified ∨ identity.status ≠ .active then
        throw (.trpc .forbidden
          s!"Identity lifecycle is {identity.lifecycleState.label}; protected operations are blocked")
      else do
        let roles ← getIdentityRoles env identity.id
        pure { identity := identity, roles := roles }

def hasRole (actor : Actor) (role : String) : Bool := actor.roles.contains role

def assertAdmin (actor : Actor) (what : String) : Promise Unit :=
  if hasRole actor "ADMIN" then pure ()
  else throw (.trpc .forbidden s!"{what} requires the ADMIN role")

def requireIdentityByDid (targetDid : String) : Promise IdentityRow :=
  if !env.databaseConfigured then throw (.trpc .internalServerError "Database unavailable")
  else do
    match ← Async.query fun w => w.identities.find? (·.did == targetDid) with
    | none => throw (.trpc .notFound "Target identity not found")
    | some identity => do
      let _ ← getIdentityRoles env identity.id
      pure identity

/-! ### The assurance gate -/

structure GovernanceAssuranceInput where
  kind : GovernanceKind
  assetId : Option String
  assuranceGrantId : Option String
  deriving DecidableEq

/-- The classification the policy is asked with: the stored one of the asset, or the worst case
when a kind that targets an asset names none. -/
def gateClassification (input : GovernanceAssuranceInput) : Promise (Option String) :=
  if input.assetId.getD "" ≠ "" then do
    let asset ← getAssetByAssetId env (input.assetId.getD "")
    pure (asset.map fun asset => asset.classification.label)
  else if input.kind ∈ governanceKindsWithAssetTarget then pure (some "CRITICAL")
  else pure none

def gateRole (actor : Actor) : String :=
  if hasRole actor "ADMIN" then "ADMIN" else actor.roles.headD "USER"

def gateDecision (actor : Actor) (kind : GovernanceKind) (assetClassification : Option String) :
    AssuranceDecision :=
  decideAssurance
    { operation := governanceKindToOperation kind
      role := gateRole actor
      assetClassification := assetClassification
      riskLevel := none
      riskScore := none
      custodyRelation := none
      approvalStatus := none
      stepUpSatisfied := true }

def gateResourceId (input : GovernanceAssuranceInput) : String :=
  orDefault input.assetId input.kind.label

def gateClaim (actor : Actor) (input : GovernanceAssuranceInput) : ClaimAssuranceInput where
  identityId := actor.identity.id
  grantId := input.assuranceGrantId
  operation := governanceKindToOperation input.kind
  resourceType := "GOVERNANCE"
  resourceId := gateResourceId input

def algorithmList (decision : AssuranceDecision) : String :=
  " + ".intercalate (decision.algorithms.map SignatureAlgorithm.label)

def assuranceRequiredError (reason : String) : Error :=
  .trpc .preconditionFailed s!"CRYPTO_ASSURANCE_REQUIRED: {reason}"

def requireGovernanceAssurance (actor : Actor) (input : GovernanceAssuranceInput) :
    Promise Unit := do
  let assetClassification ← gateClassification env input
  let decision := gateDecision actor input.kind assetClassification
  if !decision.requiresDualSignature then pure ()
  else do
    match ← claimAssuranceGrant env (gateClaim actor input) with
    | .failed reason => do
      audit env actor.identity.id "GOVERNANCE_ASSURANCE_DENIED" "GOVERNANCE"
        (input.assetId.getD input.kind.label) .deny reason
      throw (assuranceRequiredError
        (s!"{input.kind.label} requires {decision.level.label} assurance " ++
          s!"({algorithmList decision}). Policy reasons: " ++
          ", ".intercalate (decision.reasonCodes.map AssuranceReasonCode.label) ++ ". " ++ reason))
    | .ok _ =>
      audit env actor.identity.id "GOVERNANCE_ASSURANCE_VERIFIED" "GOVERNANCE"
        (input.assetId.getD input.kind.label) .allow
        s!"{decision.level.label} assurance verified ({algorithmList decision})"

/-! ### The chain adapter -/

def zeroBytes32 : String := "0x0000000000000000000000000000000000000000000000000000000000000000"

def zeroAddress : String := "0x0000000000000000000000000000000000000000"

def kindNumber : GovernanceKind → ℕ
  | .grantRole => 1
  | .revokeRole => 2
  | .burnNft => 3
  | .forceTransfer => 4
  | .pauseRegistry => 5
  | .unpauseRegistry => 6
  | .deactivateIdentity => 7

def requireAddress (value : Option String) (what : String) : Promise String :=
  if value.getD "" = "" then
    throw (.other s!"Missing {what} contract address (BLOCKCHAIN_*_CONTRACT_ADDRESS).")
  else pure (value.getD "")

def requireGovernance (besu : BesuConfig) : Promise Unit :=
  if besu.governanceContractAddress.getD "" = "" then
    throw (.other ("Governance contract is not configured (BLOCKCHAIN_GOVERNANCE_CONTRACT_ADDRESS / " ++
      "deployment.json missing SampraanGovernance)."))
  else pure ()

def requireAssetToken (besu : BesuConfig) (assetId : String) : Promise ℕ :=
  let tokenId := besu.resolveAssetId (env.ethers.keccak256 (env.ethers.toUtf8Bytes assetId))
  if tokenId = 0 then throw (.other s!"Asset {assetId} is not registered on-chain")
  else pure tokenId

def proposalToken (besu : BesuConfig) (assetId : Option String) : Promise ℕ :=
  if assetId.getD "" = "" then pure 0 else requireAssetToken env besu (assetId.getD "")

def defaultTarget (kind : GovernanceKind)
    (accessControlAddress assetRegistryAddress identityRegistryAddress : String) : String :=
  match kind with
  | .burnNft | .forceTransfer | .pauseRegistry | .unpauseRegistry => assetRegistryAddress
  | .deactivateIdentity => identityRegistryAddress
  | .grantRole | .revokeRole => accessControlAddress

def sendProposal (besu : BesuConfig) (input : GovernanceAction) : Promise MinedProposal :=
  match besu.initializationError with
  | some message => throw (.other message)
  | none => do
    requireGovernance besu
    let accessControlAddress ← requireAddress besu.accessControlContractAddress "access control"
    let assetRegistryAddress ← requireAddress besu.assetContractAddress "asset"
    let identityRegistryAddress ← requireAddress besu.identityContractAddress "identity"
    let target := input.target.getD
      (defaultTarget input.kind accessControlAddress assetRegistryAddress identityRegistryAddress)
    if input.kind ∈ [.burnNft, .forceTransfer] ∧ input.assetId.getD "" = "" then
      throw (.other s!"{input.kind.label} requires an assetId")
    else if input.kind ∈ [.grantRole, .revokeRole, .deactivateIdentity] ∧
        input.account.getD "" = "" then
      throw (.other s!"{input.kind.label} requires an account")
    else do
      let tokenId ← proposalToken env besu input.assetId
      let mined := besu.propose
        { kind := kindNumber input.kind
          target := target
          role := input.role.getD zeroBytes32
          account := input.account.getD zeroAddress
          tokenId := tokenId
          reason := input.reason }
      match mined with
      | .error message => throw (.other message)
      | .ok proposal => pure proposal

/-- Every call that gets here is listed in `submittedActions`. -/
def proposeGovernanceAction (besu : BesuConfig) (input : GovernanceAction) :
    Promise MinedProposal := do
  Async.statement fun w => ((), { w with submittedActions := w.submittedActions ++ [input] })
  sendProposal env besu input

def proposeDeactivateIdentity (besu : BesuConfig) (walletAddress reason : String) :
    Promise ℕ := do
  let proposal ← proposeGovernanceAction env besu
    { kind := .deactivateIdentity
      target := none
      role := none
      account := some walletAddress
      assetId := none
      reason := reason }
  pure proposal.proposalId

def auditByOutcome : AnchorOutcome → String
  | .anchored => "BLOCKCHAIN_ANCHOR_CONFIRMED"
  | .skipped => "BLOCKCHAIN_ANCHOR_SKIPPED"
  | .failed => "BLOCKCHAIN_ANCHOR_FAILED"

def decisionByOutcome : AnchorOutcome → AuditDecision
  | .anchored => .allow
  | .skipped => .challenge
  | .failed => .deny

def persistAnchorAudit (resourceId : String) (result : AnchorResult) : Promise Unit :=
  createAuditEvent env
    { actorIdentityId := none
      action := auditByOutcome result.outcome
      resourceType := "IDENTITY_OR_ASSET"
      resourceId := resourceId
      decision := decisionByOutcome result.outcome
      reason := result.reason.getD s!"On-chain anchor {toLowerCase result.outcome.label}" }

def governanceUnavailable : Error :=
  .trpc .preconditionFailed
    ("Blockchain/governance is not configured (MOCK mode) — this operation requires the deployed " ++
      "contracts")

def resolveOnChainWallet (besu : BesuConfig) (targetDid displayName : String) : Promise String :=
  let operatorKey := besu.privateKey.getD ""
  if operatorKey = "" then throw governanceUnavailable
  else do
    persistAnchorAudit env targetDid (besu.anchorIdentity targetDid displayName)
    pure (deriveIdentityWallet env operatorKey targetDid)

/-! ### The procedures -/

structure ProposeInput where
  kind : GovernanceKind
  assetId : Option String
  accountDid : Option String
  role : Option String
  reason : String
  assuranceGrantId : Option String
  deriving DecidableEq

def ProposeInput.gate (input : ProposeInput) : GovernanceAssuranceInput where
  kind := input.kind
  assetId := input.assetId
  assuranceGrantId := input.assuranceGrantId

def proposeAccount (besu : BesuConfig) (accountDid : Option String) : Promise (Option String) :=
  if accountDid.getD "" = "" then pure none
  else do
    let target ← requireIdentityByDid env (accountDid.getD "")
    match besu.privateKey with
    | none => throw (.other "invalid BytesLike value")
    | some operatorKey => pure (some (deriveIdentityWallet env operatorKey target.did))

def propose (user : Option ℕ) (input : ProposeInput) : Promise MinedProposal := do
  let actor ← requireActor env user
  assertAdmin actor "Governance proposal"
  requireGovernanceAssurance env actor input.gate
  match env.besu with
  | none => throw governanceUnavailable
  | some besu => do
    let account ← proposeAccount env besu input.accountDid
    let result ← proposeGovernanceAction env besu
      { kind := input.kind
        target := none
        role := input.role
        account := account
        assetId := input.assetId
        reason := input.reason }
    audit env actor.identity.id "GOVERNANCE_PROPOSAL_CREATED" "GOVERNANCE"
      (toString result.proposalId) .allow input.reason
    pure result

structure DeactivationInput where
  did : String
  reason : String
  deriving DecidableEq

def requestDeactivation (user : Option ℕ) (input : DeactivationInput) : Promise ℕ := do
  let actor ← requireActor env user
  assertAdmin actor "Request identity deactivation"
  let target ← requireIdentityByDid env input.did
  if target.lifecycleState = .deactivated then
    throw (.trpc .preconditionFailed "Identity is already deactivated")
  else
    match env.besu with
    | none => throw governanceUnavailable
    | some besu => do
      let wallet ← resolveOnChainWallet env besu target.did target.displayName
      let proposalId ← proposeDeactivateIdentity env besu wallet input.reason
      audit env actor.identity.id "DEACTIVATION_PROPOSED" "IDENTITY" target.id .allow input.reason
      pure proposalId

end Sampraan.Governance
