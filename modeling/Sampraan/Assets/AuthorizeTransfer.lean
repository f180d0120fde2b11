import Sampraan.Assets.Authorization
import Sampraan.Backend.ApprovalTables
import Sampraan.Backend.Besu
import Sampraan.Did.StepUp
import Sampraan.Governance.Actors

/-!
`assets.authorizeTransfer` of `routers.ts`: the context of the policy decision,
the decision, and the custody transfer on the chain that follows an ALLOW.
-/

namespace Sampraan.Assets

open Backend Library
open Governance (persistAnchorAudit)

variable (env : Environment)

/-! ### The advisory risk level -/

def countActions (identityId action : String) (events : List AuditEventRow) : ℕ :=
  events.countP fun event => event.actorIdentityId == some identityId && event.action == action

def riskOf (identityId : String) (sensitive : Bool) (events : List AuditEventRow) : RiskLevel :=
  let denials := countActions identityId "AUTHORIZATION_DENIED" events
  let stepUpFailures := countActions identityId "STEP_UP_FAILED" events
  let challenges := countActions identityId "AUTHORIZATION_CHALLENGED" events
  if denials ≥ 3 ∨ stepUpFailures ≥ 2 then .high
  else if sensitive ∧ (challenges ≥ 2 ∨ denials ≥ 1) then .high
  else if denials ≥ 1 ∨ challenges ≥ 1 ∨ sensitive then .medium
  else .low

def isSensitive (classification : AssetClassification) : Bool :=
  classification == .highlySensitive || classification == .critical

def assessRisk (identityId : Option String) (classification : AssetClassification) :
    Promise RiskLevel :=
  match identityId with
  | none => pure .low
  | some identityId => do
    let events ← listAuditEvents env 200
    pure (riskOf identityId (isSensitive classification) events)

/-! ### The policy decision -/

structure PlatformUser where
  id : ℕ
  isAdmin : Bool
  deriving DecidableEq

structure AuthorizeTransferInput where
  assetId : String
  recipientIdentityId : Option String
  deriving DecidableEq

structure TransferReply where
  decision : AuditDecision
  reason : String
  policyId : Option String
  transaction : Option String
  custodyUnchanged : Bool := false
  deriving DecidableEq

/-- What the handler has gathered when the policy allows the transfer. -/
structure Prepared where
  asset : AssetRow
  actor : Option IdentityRow
  recipient : Option IdentityRow
  approvalRow : Option AssetApprovalRow
  result : AuthorizationResult
  deriving DecidableEq

def stepUpPurposeFor (action assetRowId : String) : String :=
  s!"content-{toLowerCase action}:{assetRowId}"

def rolesAndPermissionsOf (actor : Option IdentityRow) : Promise RolesAndPermissions :=
  match actor with
  | some identity => getIdentityRolesAndPermissions env identity.id
  | none => pure { roles := [], permissions := [] }

def resolveRecipient (actor : Option IdentityRow) (recipientIdentityId : Option String) :
    Promise (Option IdentityRow) :=
  match recipientIdentityId with
  | some id => getIdentityById env id
  | none => pure actor

def stepUpOf (actor : Option IdentityRow) (asset : AssetRow) : Promise Bool :=
  match actor with
  | some identity => Did.hasValidStepUp env identity.id (stepUpPurposeFor "TRANSFER" asset.id)
  | none => pure false

def approvalOf (actor : Option IdentityRow) (asset : AssetRow) :
    Promise (Option AssetApprovalRow) :=
  match actor with
  | some identity => getActiveAssetApproval env
      { assetId := asset.id, requesterIdentityId := identity.id, action := "TRANSFER" }
  | none => pure none

/-- An approval authorizes the recipient it was granted for, or any when it names none. -/
def approvalMatchesTarget (approvalRow : Option AssetApprovalRow) (recipient : Option IdentityRow) :
    Bool :=
  match approvalRow with
  | none => true
  | some row => row.targetIdentityId.isNone ||
      recipient.any fun recipient => row.targetIdentityId == some recipient.id

def effectiveRole (user : PlatformUser) (roles : List String) : String :=
  if user.isAdmin then "ADMIN" else roles.headD "USER"

def effectivePermissions (user : PlatformUser) (permissions : List String) : List String :=
  if user.isAdmin then (permissions ++ ["administration:manage"]).eraseDups else permissions

def transferRequest (user : PlatformUser) (granted : RolesAndPermissions) (asset : AssetRow)
    (actor recipient : Option IdentityRow) (stepUpValid : Bool)
    (approvalRow : Option AssetApprovalRow) (riskLevel : RiskLevel) : AuthorizationRequest where
  identityStatus := (actor.map (·.status.label)).getD "UNREGISTERED"
  role := effectiveRole user granted.roles
  permissions := effectivePermissions user granted.permissions
  resourceType := "asset"
  action := "TRANSFER"
  assetClassification := some asset.classification.label
  actorIdentityId := actor.map IdentityRow.id
  currentCustodianIdentityId := some asset.custodianIdentityId
  approvalStatus :=
    if approvalMatchesTarget approvalRow recipient then approvalRow.map AssetApprovalRow.status
    else none
  riskLevel := some riskLevel
  stepUpAuthenticated := stepUpValid
  approvalRequired := isSensitive asset.classification

def auditTransfer (actor : Option IdentityRow) (asset : AssetRow) (action : String)
    (decision : AuditDecision) (reason : String) : Promise Unit :=
  createAuditEvent env
    { actorIdentityId := actor.map IdentityRow.id
      action := action
      resourceType := "ASSET"
      resourceId := asset.assetId
      decision := decision
      reason := reason }

/-- A denial before the policy engine is asked. -/
def denied (actor : Option IdentityRow) (asset : AssetRow) (reason : String) :
    Promise (Except TransferReply Prepared) := do
  auditTransfer env actor asset "AUTHORIZATION_DENIED" .deny reason
  pure (.error { decision := .deny, reason := reason, policyId := none, transaction := none })

def auditAction : AuditDecision → String
  | .deny => "AUTHORIZATION_DENIED"
  | .challenge => "AUTHORIZATION_CHALLENGED"
  | .allow => "AUTHORIZATION_ALLOWED"

def answerOf (result : AuthorizationResult) (transaction : Option String) : TransferReply where
  decision := result.decision
  reason := result.reason
  policyId := result.policyId
  transaction := transaction

/-- The three reads of `Promise.all`, here one after the other, and the decision on them. -/
def decideTransfer (user : PlatformUser) (granted : RolesAndPermissions) (asset : AssetRow)
    (actor recipient : Option IdentityRow) : Promise (Except TransferReply Prepared) := do
  let stepUpValid ← stepUpOf env actor asset
  let approvalRow ← approvalOf env actor asset
  let riskLevel ← assessRisk env (actor.map IdentityRow.id) asset.classification
  let result :=
    evaluate (transferRequest user granted asset actor recipient stepUpValid approvalRow riskLevel)
  if result.decision ≠ .allow then do
    auditTransfer env actor asset (auditAction result.decision) result.decision result.reason
    pure (.error (answerOf result none))
  else
    pure (.ok
      { asset := asset
        actor := actor
        recipient := recipient
        approvalRow := approvalRow
        result := result })

def prepare (user : Option PlatformUser) (input : AuthorizeTransferInput) :
    Promise (Except TransferReply Prepared) := do
  match user with
  | none => throw (.trpc .unauthorized "Please login (10001)")
  | some user => do
    match ← getAssetById env input.assetId with
    | none => throw (.trpc .notFound "Asset not found")
    | some asset =>
      if asset.status ≠ .active then
        throw (.trpc .preconditionFailed
          s!"Asset is {toLowerCase asset.status.label} and cannot be transferred")
      else do
        let actor ← getIdentityByLinkedUserId env user.id
        let granted ← rolesAndPermissionsOf env actor
        let recipient ← resolveRecipient env actor input.recipientIdentityId
        if input.recipientIdentityId.isSome ∧ recipient.isNone then
          throw (.trpc .notFound "Recipient identity not found")
        else do
          let owner ← getIdentityById env asset.ownerIdentityId
          let ownerStatus := (owner.map IdentityRow.status).getD .suspended
          let recipientStatus := (recipient.map IdentityRow.status).getD .active
          if ownerStatus ≠ .active then
            denied env actor asset s!"Owner identity is {toLowerCase ownerStatus.label}"
          else if input.recipientIdentityId.isSome ∧ recipientStatus ≠ .active then
            denied env actor asset s!"Recipient identity is {toLowerCase recipientStatus.label}"
          else decideTransfer env user granted asset actor recipient

/-! ### The custody transfer -/

def operatorAddress (besu : BesuConfig) : Option String :=
  let operatorKey := besu.privateKey.getD ""
  if operatorKey = "" then none else some (env.ethers.walletAddress operatorKey)

def toCustodianWallet (besu : BesuConfig) (recipient : Option IdentityRow) : Option String :=
  let operatorKey := besu.privateKey.getD ""
  match recipient with
  | some recipient =>
    if operatorKey = "" then operatorAddress env besu
    else some (deriveIdentityWallet env operatorKey recipient.did)
  | none => operatorAddress env besu

/-- The best-effort anchoring of the recipient. -/
def anchorRecipient (besu : BesuConfig) (recipient : Option IdentityRow) : Promise Unit :=
  match recipient with
  | some recipient =>
    if besu.privateKey.getD "" = "" then pure ()
    else persistAnchorAudit env recipient.did
      (besu.anchorIdentity recipient.did recipient.displayName)
  | none => pure ()

def custodyUnchanged (p : Prepared) : Promise TransferReply := do
  auditTransfer env p.actor p.asset "ASSET_CUSTODY_UNCHANGED" .allow
    "Requested custodian already holds custody on-chain"
  pure
    { decision := p.result.decision
      reason := "Requested custodian already holds custody on-chain — no transfer needed"
      policyId := p.result.policyId
      transaction := none
      custodyUnchanged := true }

def includes (text part : String) : Bool := text.toList.tails.any part.toList.isPrefixOf

/-- The `catch` block of the submission. -/
def transferRefused (p : Prepared) (reason : String) : Promise TransferReply :=
  if includes reason "0x27479240" ∨ includes (toLowerCase reason) "same asset status" then
    custodyUnchanged env p
  else do
    auditTransfer env p.actor p.asset "BLOCKCHAIN_TRANSACTION_FAILED" .deny reason
    throw (.trpc .badGateway s!"Blockchain rejected the transfer: {reason}")

def consumeApproval (approvalRow : Option AssetApprovalRow) : Promise Unit :=
  match approvalRow with
  | some row =>
    if row.status = .approved then markAssetApprovalExecuted env row.id else pure ()
  | none => pure ()

/-- What follows a confirmed transfer. -/
def completeTransfer (p : Prepared) (transactionHash : String) : Promise TransferReply := do
  auditTransfer env p.actor p.asset "ASSET_TRANSFERRED" .allow "Custody transfer confirmed on-chain"
  consumeApproval env p.approvalRow
  let custodianUpdate ← commitCustodyTransfer env p.asset.id
    ((p.recipient.map IdentityRow.id).getD "")
  if !custodianUpdate then do
    auditTransfer env p.actor p.asset "CUSTODY_SYNC_FAILED" .challenge
      "On-chain transfer confirmed but the database custodian could not be updated"
    pure (answerOf p.result (some transactionHash))
  else pure (answerOf p.result (some transactionHash))

/-- The transaction, with the error that the `catch` block gets. -/
def trySubmit (besu : BesuConfig) (assetId wallet : String) : Promise (Except Error String) :=
  tryCatch (do return .ok (← Besu.transferAsset besu assetId wallet))
    fun error => pure (.error error)

def submitTransfer (besu : BesuConfig) (p : Prepared) (wallet : String) :
    Promise TransferReply := do
  let onChainAsset ← tryCatch (Besu.getAsset besu p.asset.assetId) fun _ => pure none
  if onChainAsset.any fun record => toLowerCase record.custodian == toLowerCase wallet then
    custodyUnchanged env p
  else do
    match ← trySubmit besu p.asset.assetId wallet with
    | .error error => transferRefused env p (describeError error)
    | .ok transactionHash => completeTransfer env p transactionHash

def executeTransfer (p : Prepared) : Promise TransferReply :=
  match env.besu with
  | none => do
    let reason :=
      "Blockchain is not configured (MOCK mode) — custody transfer cannot be executed on-chain"
    auditTransfer env p.actor p.asset "BLOCKCHAIN_TRANSACTION_FAILED" .deny reason
    throw (.trpc .preconditionFailed reason)
  | some besu => do
    anchorRecipient env besu p.recipient
    match toCustodianWallet env besu p.recipient with
    | none => do
      auditTransfer env p.actor p.asset "BLOCKCHAIN_TRANSACTION_FAILED" .deny
        "Blockchain custodian wallet is not configured"
      throw (.trpc .internalServerError "Blockchain custodian wallet is not configured")
    | some wallet => submitTransfer env besu p wallet

def authorizeTransfer (user : Option PlatformUser) (input : AuthorizeTransferInput) :
    Promise TransferReply := do
  match ← prepare env user input with
  | .error reply => pure reply
  | .ok p => executeTransfer env p

end Sampraan.Assets
