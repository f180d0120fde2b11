import Sampraan.Backend.AssetTables
import Sampraan.Backend.Besu
import Sampraan.Governance.Actors

/-! The controlled transfer of `governance.router.ts`: request, accept, approve, execute. -/

namespace Sampraan.Governance.Transfer

open Backend Library
open CryptoAssurance (Actor)

variable (env : Environment)

def requestNotFound : Error := .trpc .notFound "Transfer request not found"

def assetNotFound : Error := .trpc .notFound "Asset not found"

def onHold : Error := .trpc .preconditionFailed "Asset transfer is on HOLD (open dispute)"

def auditTransfer (actor : Actor) (action resourceId reason : String) : Promise Unit :=
  audit env actor.identity.id action "ASSET" resourceId .allow reason

/-! ### request -/

structure RequestInput where
  assetId : String
  toDid : String
  reason : String
  deriving DecidableEq

/-- `uuid` is what `crypto.randomUUID()` gives. -/
def request (user : Option ℕ) (uuid : String) (input : RequestInput) :
    Promise (Option AssetTransferRequestRow) := do
  let actor ← requireActor env user
  match ← getAssetById env input.assetId with
  | none => throw assetNotFound
  | some asset =>
    if asset.custodianIdentityId ≠ actor.identity.id then
      throw (.trpc .forbidden "Only the current custodian can request a transfer")
    else if asset.status ≠ .active then
      throw (.trpc .preconditionFailed s!"Asset is {asset.status.label}; transfers require ACTIVE")
    else do
      if ← hasOpenDispute env asset.id then throw onHold
      else do
        let recipient ← requireTarget env input.toDid
        if recipient.identity.id = actor.identity.id then
          throw (.trpc .preconditionFailed "Transfer to self is not permitted")
        else if recipient.identity.lifecycleState ≠ .verified then
          throw (.trpc .preconditionFailed
            s!"Recipient lifecycle is {recipient.identity.lifecycleState.label}")
        else do
          let request ← createAssetTransferRequest env uuid
            { assetId := asset.id
              tokenId := asset.tokenId
              fromIdentityId := actor.identity.id
              toIdentityId := recipient.identity.id
              requestedByIdentityId := actor.identity.id }
          auditTransfer env actor "TRANSFER_REQUESTED" asset.assetId input.reason
          pure request

/-! ### accept -/

structure RequestId where
  requestId : String
  deriving DecidableEq

def acceptedPatch (r : AssetTransferRequestRow) : AssetTransferRequestRow :=
  { r with status := .accepted }

def accept (user : Option ℕ) (input : RequestId) : Promise (Option AssetTransferRequestRow) := do
  let actor ← requireActor env user
  match ← getAssetTransferRequest env input.requestId with
  | none => throw requestNotFound
  | some request =>
    if request.toIdentityId ≠ actor.identity.id then
      throw (.trpc .forbidden "Only the named recipient can accept")
    else if request.status ≠ .pending then
      throw (.trpc .preconditionFailed
        s!"Only PENDING requests can be accepted (this one is {request.status.label})")
    else do
      let updated ← updateAssetTransferRequest env input.requestId acceptedPatch
      auditTransfer env actor "TRANSFER_ACCEPTED" request.assetId
        "Recipient accepted the transfer request"
      pure updated

/-! ### approve -/

inductive Decision where
  | approved
  | rejected
  deriving DecidableEq

def Decision.status : Decision → TransferRequestStatus
  | .approved => .approved
  | .rejected => .rejected

structure ApproveInput where
  requestId : String
  decision : Decision
  reason : String
  deriving DecidableEq

/-- The manager's scope rule, which also lets the sender's organization match. -/
def matchesScope (actor : Actor) (identity : IdentityRow) : Bool :=
  identity.scope == some (effectiveScope actor.identity) ||
    identity.organization == effectiveScope actor.identity

def outsideScope : Error := .trpc .forbidden "Transfer is outside your scope"

def assertApprover (actor : Actor) (request : AssetTransferRequestRow) : Promise Unit :=
  if hasRole actor "ADMIN" then pure ()
  else if hasRole actor "MANAGER" then do
    match ← getIdentityById env request.fromIdentityId with
    | none => throw outsideScope
    | some sender => if matchesScope actor sender then pure () else throw outsideScope
  else throw (.trpc .forbidden "Approval requires ADMIN or MANAGER")

def decidedPatch (actor : Actor) (input : ApproveInput) (r : AssetTransferRequestRow) :
    AssetTransferRequestRow :=
  { r with
    status := input.decision.status
    approverIdentityId := some actor.identity.id
    decisionReason := some input.reason }

def approve (user : Option ℕ) (input : ApproveInput) :
    Promise (Option AssetTransferRequestRow) := do
  let actor ← requireActor env user
  match ← getAssetTransferRequest env input.requestId with
  | none => throw requestNotFound
  | some request =>
    if request.status ≠ .accepted then
      throw (.trpc .preconditionFailed
        s!"Only ACCEPTED requests can be approved (this one is {request.status.label})")
    else if request.fromIdentityId = actor.identity.id ∨ request.toIdentityId = actor.identity.id then
      throw (.trpc .forbidden "Approver cannot be the sender or the recipient")
    else do
      assertApprover env actor request
      if ← hasOpenDispute env request.assetId then throw onHold
      else do
        let updated ← updateAssetTransferRequest env input.requestId (decidedPatch actor input)
        auditTransfer env actor
          (if input.decision = .approved then "TRANSFER_APPROVED" else "TRANSFER_REJECTED")
          request.assetId input.reason
        pure updated

/-! ### execute -/

structure ExecuteResult where
  transactionHash : String
  toDid : String
  deriving DecidableEq

def executedPatch (transactionHash : String) (r : AssetTransferRequestRow) :
    AssetTransferRequestRow :=
  { r with status := .executed, transactionHash := some transactionHash }

/-- From the chain's adapter on. -/
def executeOnChain (besu : BesuConfig) (actor : Actor) (input : RequestId)
    (request : AssetTransferRequestRow) (asset : AssetRow) : Promise ExecuteResult := do
  match ← getIdentityById env request.toIdentityId with
  | none => throw (.trpc .preconditionFailed "Recipient lifecycle is not VERIFIED")
  | some recipient =>
    if recipient.lifecycleState ≠ .verified then
      throw (.trpc .preconditionFailed "Recipient lifecycle is not VERIFIED")
    else do
      let toWallet ← resolveOnChainWallet env besu recipient.did recipient.displayName
      let transactionHash ← tryCatch (Besu.transferAsset besu asset.assetId toWallet)
        fun error => throw
          (.trpc .badGateway s!"Blockchain rejected the transfer: {describeError error}")
      applyCustodyTransfer env asset.id recipient.id
      let _ ← updateAssetTransferRequest env input.requestId (executedPatch transactionHash)
      auditTransfer env actor "TRANSFER_EXECUTED" asset.assetId
        s!"Governed transfer executed (request {request.id})"
      pure { transactionHash := transactionHash, toDid := recipient.did }

def execute (user : Option ℕ) (input : RequestId) : Promise ExecuteResult := do
  let actor ← requireActor env user
  match ← getAssetTransferRequest env input.requestId with
  | none => throw requestNotFound
  | some request =>
    if request.status ≠ .approved then
      throw (.trpc .preconditionFailed
        s!"Only APPROVED requests can be executed (this one is {request.status.label})")
    else do
      match ← getAssetById env request.assetId with
      | none => throw assetNotFound
      | some asset =>
        if asset.custodianIdentityId ≠ request.fromIdentityId then
          throw (.trpc .preconditionFailed "Custody changed after approval; request is stale")
        else do
          if ← hasOpenDispute env asset.id then throw onHold
          else
            match env.besu with
            | none => throw governanceUnavailable
            | some besu => executeOnChain env besu actor input request asset

end Sampraan.Governance.Transfer
