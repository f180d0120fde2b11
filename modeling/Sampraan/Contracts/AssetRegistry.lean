import Sampraan.Contracts.IdentityRegistry

/-! `SampraanAssetRegistry.sol`, over the OpenZeppelin ERC721 that it inherits. -/

namespace Sampraan.Contracts

open Library

inductive AssetStatus where
  | none
  | pending
  | active
  | suspended
  | revoked
  deriving DecidableEq

structure AssetRecord where
  assetIdDigest : Bytes32
  classificationDigest : Bytes32
  metadataDigest : Bytes32
  status : AssetStatus
  custodian : Address
  registeredAt : ℕ
  statusChangedAt : ℕ
  deriving DecidableEq

structure Dispute where
  tokenId : ℕ
  raisedBy : Address
  evidenceHash : Bytes32
  reason : String
  isOpen : Bool
  upheld : Bool
  resolutionReason : String
  raisedAt : ℕ
  resolvedAt : ℕ
  deriving DecidableEq

structure Anomaly where
  target : Address
  tokenId : ℕ
  flaggedBy : Address
  reason : String
  atTime : ℕ
  deriving DecidableEq

structure AuditReport where
  auditor : Address
  reportHash : Bytes32
  atTime : ℕ
  deriving DecidableEq

structure CustodyRecord where
  fromCustodian : Address
  toCustodian : Address
  operator : Address
  atTime : ℕ
  deriving DecidableEq

/-- `owners` and `balances` are the inherited ERC721 state. -/
structure SampraanAssetRegistry where
  owners : ℕ → Address
  balances : Address → ℕ
  paused : Bool
  disputedAssets : Bytes32 → Bool
  openDisputeCount : ℕ
  assets : ℕ → AssetRecord
  assetIdToToken : Bytes32 → ℕ
  nextTokenId : ℕ
  disputes : ℕ → Dispute
  disputeCount : ℕ
  anomalies : ℕ → Anomaly
  anomalyCount : ℕ
  auditReports : ℕ → AuditReport
  auditReportCount : ℕ
  custodyHistory : ℕ → List CustodyRecord
  custodyHistoryLength : ℕ → ℕ

/-- What the access control contract and the identity registry report when a call runs. -/
structure View where
  roles : Roles
  isActive : Address → Bool

namespace SampraanAssetRegistry

def emptyAsset : AssetRecord where
  assetIdDigest := 0
  classificationDigest := 0
  metadataDigest := 0
  status := .none
  custodian := 0
  registeredAt := 0
  statusChangedAt := 0

def emptyDispute : Dispute where
  tokenId := 0
  raisedBy := 0
  evidenceHash := 0
  reason := ""
  isOpen := false
  upheld := false
  resolutionReason := ""
  raisedAt := 0
  resolvedAt := 0

def emptyAnomaly : Anomaly where
  target := 0
  tokenId := 0
  flaggedBy := 0
  reason := ""
  atTime := 0

def deploy : SampraanAssetRegistry where
  owners _ := 0
  balances _ := 0
  paused := false
  disputedAssets _ := false
  openDisputeCount := 0
  assets _ := emptyAsset
  assetIdToToken _ := 0
  nextTokenId := 1
  disputes _ := emptyDispute
  disputeCount := 0
  anomalies _ := emptyAnomaly
  anomalyCount := 0
  auditReports _ := { auditor := 0, reportHash := 0, atTime := 0 }
  auditReportCount := 0
  custodyHistory _ := []
  custodyHistoryLength _ := 0

/-! ### The inherited ERC721 -/

/-- The inherited `_update` without an authorization check, as the three callers below use it. It
returns the previous owner. -/
def updateOwner (newOwner : Address) (tokenId : ℕ) (s : SampraanAssetRegistry) :
    Address × SampraanAssetRegistry :=
  let previous := s.owners tokenId
  let debited := if previous ≠ 0 then
      Function.update s.balances previous ((s.balances previous + (2 ^ 256 - 1)) % 2 ^ 256)
    else s.balances
  let credited := if newOwner ≠ 0 then
      Function.update debited newOwner ((debited newOwner + 1) % 2 ^ 256)
    else debited
  (previous, { s with
    balances := credited
    owners := Function.update s.owners tokenId newOwner })

def mint (newOwner : Address) (tokenId : ℕ) (s : SampraanAssetRegistry) :
    Result SampraanAssetRegistry := do
  revertIf (newOwner = 0) (.erc721InvalidReceiver 0)
  let (previous, s) := updateOwner newOwner tokenId s
  revertIf (previous ≠ 0) (.erc721InvalidSender 0)
  pure s

def burn (tokenId : ℕ) (s : SampraanAssetRegistry) : Result SampraanAssetRegistry := do
  let (previous, s) := updateOwner 0 tokenId s
  revertIf (previous = 0) (.erc721NonexistentToken tokenId)
  pure s

def transfer (fromOwner newOwner : Address) (tokenId : ℕ) (s : SampraanAssetRegistry) :
    Result SampraanAssetRegistry := do
  revertIf (newOwner = 0) (.erc721InvalidReceiver 0)
  let (previous, s) := updateOwner newOwner tokenId s
  revertIf (previous = 0) (.erc721NonexistentToken tokenId)
  revertIf (previous ≠ fromOwner) (.erc721IncorrectOwner fromOwner tokenId previous)
  pure s

def ownerOf (tokenId : ℕ) (s : SampraanAssetRegistry) : Result Address := do
  revertIf (s.owners tokenId = 0) (.erc721NonexistentToken tokenId)
  pure (s.owners tokenId)

/-! ### Registration and custody -/

variable (governance : Address) (view : View) (msg : Msg)

def onlyAssetManager (s : SampraanAssetRegistry) : Result Unit := do
  revertIf s.paused .paused
  revertIf (¬ view.roles assetManagerRole msg.sender) .notAssetManager

def onlyAuthorizedOperator (s : SampraanAssetRegistry) : Result Unit := do
  revertIf s.paused .paused
  revertIf (¬ view.roles assetManagerRole msg.sender) .notAuthorizedOperator

def setAsset (tokenId : ℕ) (asset : AssetRecord) (s : SampraanAssetRegistry) :
    SampraanAssetRegistry :=
  { s with assets := Function.update s.assets tokenId asset }

def pushCustody (tokenId : ℕ) (record : CustodyRecord) (s : SampraanAssetRegistry) :
    SampraanAssetRegistry :=
  { s with
    custodyHistory :=
      Function.update s.custodyHistory tokenId (s.custodyHistory tokenId ++ [record]) }

def setCustodyHistoryLength (tokenId n : ℕ) (s : SampraanAssetRegistry) : SampraanAssetRegistry :=
  { s with custodyHistoryLength := Function.update s.custodyHistoryLength tokenId n }

def registerAsset (assetIdDigest : Bytes32) (custodian : Address)
    (classificationDigest metadataDigest : Bytes32) (s : SampraanAssetRegistry) :
    Result SampraanAssetRegistry := do
  onlyAssetManager view msg s
  revertIf (assetIdDigest = 0) .zeroDigest
  revertIf (custodian = 0) .zeroAddress
  revertIf (s.assetIdToToken assetIdDigest ≠ 0) .assetAlreadyRegistered
  revertIf (¬ view.isActive custodian) .custodianNotActive
  let tokenId := s.nextTokenId
  let nextTokenId ← checkedAdd s.nextTokenId 1
  let s := { s with nextTokenId := nextTokenId }
  let s := s.setAsset tokenId
    { assetIdDigest := assetIdDigest
      classificationDigest := classificationDigest
      metadataDigest := metadataDigest
      status := .pending
      custodian := custodian
      registeredAt := uint64 msg.timestamp
      statusChangedAt := uint64 msg.timestamp }
  let s := { s with assetIdToToken := Function.update s.assetIdToToken assetIdDigest tokenId }
  let s ← mint custodian tokenId s
  let s := s.pushCustody tokenId
    { fromCustodian := 0
      toCustodian := custodian
      operator := msg.sender
      atTime := uint64 msg.timestamp }
  pure (s.setCustodyHistoryLength tokenId 1)

def assignAsset (tokenId : ℕ) (custodian : Address) (s : SampraanAssetRegistry) :
    Result SampraanAssetRegistry := do
  onlyAuthorizedOperator view msg s
  let asset := s.assets tokenId
  revertIf (asset.status = .none) .assetNotRegistered
  revertIf (custodian = 0) .zeroAddress
  revertIf (custodian = asset.custodian) .sameAssetStatus
  revertIf (¬ view.isActive custodian) .recipientNotActive
  revertIf (asset.status = .suspended ∨ asset.status = .revoked) .assetNotActive
  let previous := asset.custodian
  let s := s.setAsset tokenId { asset with custodian := custodian }
  let s := s.pushCustody tokenId
    { fromCustodian := previous
      toCustodian := custodian
      operator := msg.sender
      atTime := uint64 msg.timestamp }
  let custodyHistoryLength ← checkedAdd (s.custodyHistoryLength tokenId) 1
  let s := s.setCustodyHistoryLength tokenId custodyHistoryLength
  let owner ← ownerOf tokenId s
  if owner ≠ custodian then transfer previous custodian tokenId s
  else pure s

def transferCustody (tokenId : ℕ) (toCustodian : Address) (s : SampraanAssetRegistry) :
    Result SampraanAssetRegistry := do
  onlyAuthorizedOperator view msg s
  let asset := s.assets tokenId
  revertIf (asset.status = .none) .assetNotRegistered
  revertIf (asset.status ≠ .active) .assetNotActive
  revertIf (s.disputedAssets asset.assetIdDigest) .assetDisputed
  revertIf (toCustodian = 0) .zeroAddress
  revertIf (toCustodian = asset.custodian) .sameAssetStatus
  revertIf (¬ view.isActive asset.custodian) .custodianNotActive
  revertIf (¬ view.isActive toCustodian) .recipientNotActive
  let fromCustodian := asset.custodian
  let s := s.setAsset tokenId
    { asset with custodian := toCustodian, statusChangedAt := uint64 msg.timestamp }
  let s := s.pushCustody tokenId
    { fromCustodian := fromCustodian
      toCustodian := toCustodian
      operator := msg.sender
      atTime := uint64 msg.timestamp }
  let custodyHistoryLength ← checkedAdd (s.custodyHistoryLength tokenId) 1
  let s := s.setCustodyHistoryLength tokenId custodyHistoryLength
  transfer fromCustodian toCustodian tokenId s

/-! ### Status -/

def changeStatus (tokenId : ℕ) (newStatus : AssetStatus) (s : SampraanAssetRegistry) :
    Result SampraanAssetRegistry := do
  let asset := s.assets tokenId
  revertIf (asset.status = .none) .assetNotRegistered
  revertIf (asset.status = newStatus) .sameAssetStatus
  revertIf (asset.status = .revoked) .invalidAssetStatus
  revertIf ((asset.status = .pending ∧ newStatus ≠ .active) ∨
    (asset.status = .active ∧ newStatus ≠ .suspended ∧ newStatus ≠ .revoked) ∨
    (asset.status = .suspended ∧ newStatus ≠ .active ∧ newStatus ≠ .revoked)) .invalidAssetStatus
  pure (s.setAsset tokenId
    { asset with status := newStatus, statusChangedAt := uint64 msg.timestamp })

def changeStatusAs (newStatus : AssetStatus) (tokenId : ℕ) (s : SampraanAssetRegistry) :
    Result SampraanAssetRegistry := do
  onlyAuthorizedOperator view msg s
  changeStatus msg tokenId newStatus s

def activateAsset := changeStatusAs view msg .active

def suspendAsset := changeStatusAs view msg .suspended

def restoreAsset := changeStatusAs view msg .active

def revokeAsset := changeStatusAs view msg .revoked

/-! ### Evidence -/

def flagAnomaly (target : Address) (tokenId : ℕ) (reason : String) (s : SampraanAssetRegistry) :
    Result SampraanAssetRegistry := do
  revertIf s.paused .paused
  revertIf (¬ view.roles auditorRole msg.sender) .notAuditor
  revertIf (target = 0) .zeroAddress
  revertIf (reason = "") .zeroReason
  let id ← checkedAdd s.anomalyCount 1
  pure
    { s with
      anomalyCount := id
      anomalies := Function.update s.anomalies id
        { target := target
          tokenId := tokenId
          flaggedBy := msg.sender
          reason := reason
          atTime := uint64 msg.timestamp } }

def raiseDispute (tokenId : ℕ) (evidenceHash : Bytes32) (reason : String)
    (s : SampraanAssetRegistry) : Result SampraanAssetRegistry := do
  revertIf s.paused .paused
  revertIf (¬ view.roles auditorRole msg.sender) .notAuditor
  revertIf ((s.assets tokenId).status = .none) .assetNotRegistered
  revertIf (evidenceHash = 0) .emptyEvidenceHash
  revertIf (reason = "") .zeroReason
  revertIf (s.disputedAssets (s.assets tokenId).assetIdDigest) .assetDisputed
  let id ← checkedAdd s.disputeCount 1
  let s :=
    { s with
      disputeCount := id
      disputes := Function.update s.disputes id
        { tokenId := tokenId
          raisedBy := msg.sender
          evidenceHash := evidenceHash
          reason := reason
          isOpen := true
          upheld := false
          resolutionReason := ""
          raisedAt := uint64 msg.timestamp
          resolvedAt := 0 }
      disputedAssets :=
        Function.update s.disputedAssets (s.assets tokenId).assetIdDigest true }
  let openDisputeCount ← checkedAdd s.openDisputeCount 1
  pure { s with openDisputeCount := openDisputeCount }

def resolveDispute (disputeId : ℕ) (upheld : Bool) (reason : String) (s : SampraanAssetRegistry) :
    Result SampraanAssetRegistry := do
  revertIf s.paused .paused
  revertIf (¬ view.roles defaultAdminRole msg.sender) .notAdmin
  let dispute := s.disputes disputeId
  revertIf (¬ dispute.isOpen) .disputeNotOpen
  revertIf (reason = "") .zeroReason
  let s :=
    { s with
      disputes := Function.update s.disputes disputeId
        { dispute with
          isOpen := false
          upheld := upheld
          resolutionReason := reason
          resolvedAt := uint64 msg.timestamp } }
  if ¬ upheld then do
    let s :=
      { s with
        disputedAssets :=
          Function.update s.disputedAssets (s.assets dispute.tokenId).assetIdDigest false }
    let openDisputeCount ← checkedSub s.openDisputeCount 1
    pure { s with openDisputeCount := openDisputeCount }
  else pure s

def storeAuditReportHash (reportHash : Bytes32) (s : SampraanAssetRegistry) :
    Result SampraanAssetRegistry := do
  revertIf (¬ view.roles auditorRole msg.sender) .notAuditor
  revertIf (reportHash = 0) .emptyEvidenceHash
  let id ← checkedAdd s.auditReportCount 1
  pure
    { s with
      auditReportCount := id
      auditReports := Function.update s.auditReports id
        { auditor := msg.sender
          reportHash := reportHash
          atTime := uint64 msg.timestamp } }

/-! ### Governance -/

def governancePause (s : SampraanAssetRegistry) : Result SampraanAssetRegistry := do
  revertIf (msg.sender ≠ governance) .notGovernance
  revertIf s.paused .sameAssetStatus
  pure { s with paused := true }

def governanceUnpause (s : SampraanAssetRegistry) : Result SampraanAssetRegistry := do
  revertIf (msg.sender ≠ governance) .notGovernance
  revertIf (¬ s.paused) .sameAssetStatus
  pure { s with paused := false }

def governanceBurnNFT (tokenId : ℕ) (reason : String) (s : SampraanAssetRegistry) :
    Result SampraanAssetRegistry := do
  revertIf (msg.sender ≠ governance) .notGovernance
  revertIf (reason = "") .zeroReason
  let asset := s.assets tokenId
  revertIf (asset.status = .none) .assetNotRegistered
  revertIf (asset.status = .revoked) .invalidAssetStatus
  let s := s.setAsset tokenId
    { asset with status := .revoked, statusChangedAt := uint64 msg.timestamp }
  burn tokenId s

def governanceForceTransfer (tokenId : ℕ) (toCustodian : Address) (reason : String)
    (s : SampraanAssetRegistry) : Result SampraanAssetRegistry := do
  revertIf (msg.sender ≠ governance) .notGovernance
  revertIf (reason = "") .zeroReason
  let asset := s.assets tokenId
  revertIf (asset.status = .none) .assetNotRegistered
  revertIf (toCustodian = 0) .zeroAddress
  revertIf (toCustodian = asset.custodian) .sameAssetStatus
  let fromCustodian := asset.custodian
  let s := s.setAsset tokenId
    { asset with custodian := toCustodian, statusChangedAt := uint64 msg.timestamp }
  let s := s.pushCustody tokenId
    { fromCustodian := fromCustodian
      toCustodian := toCustodian
      operator := msg.sender
      atTime := uint64 msg.timestamp }
  let custodyHistoryLength ← checkedAdd (s.custodyHistoryLength tokenId) 1
  let s := s.setCustodyHistoryLength tokenId custodyHistoryLength
  transfer fromCustodian toCustodian tokenId s

/-! ### The contract -/

/-- The external functions that are not views; `safeTransferFromWithData` is the overload with the
`bytes` argument. -/
inductive Call where
  | registerAsset (assetIdDigest : Bytes32) (custodian : Address)
    (classificationDigest metadataDigest : Bytes32)
  | assignAsset (tokenId : ℕ) (custodian : Address)
  | transferCustody (tokenId : ℕ) (toCustodian : Address)
  | activateAsset (tokenId : ℕ)
  | suspendAsset (tokenId : ℕ)
  | restoreAsset (tokenId : ℕ)
  | revokeAsset (tokenId : ℕ)
  | flagAnomaly (target : Address) (tokenId : ℕ) (reason : String)
  | raiseDispute (tokenId : ℕ) (evidenceHash : Bytes32) (reason : String)
  | resolveDispute (disputeId : ℕ) (upheld : Bool) (reason : String)
  | storeAuditReportHash (reportHash : Bytes32)
  | governancePause
  | governanceUnpause
  | governanceBurnNFT (tokenId : ℕ) (reason : String)
  | governanceForceTransfer (tokenId : ℕ) (toCustodian : Address) (reason : String)
  | governanceGrantRole (role : Bytes32) (account : Address)
  | governanceRevokeRole (role : Bytes32) (account : Address)
  | governanceDeactivateIdentity (wallet : Address) (reason : String)
  | approve (spender : Address) (tokenId : ℕ)
  | setApprovalForAll (operator : Address) (approved : Bool)
  | transferFrom (fromOwner newOwner : Address) (tokenId : ℕ)
  | safeTransferFrom (fromOwner newOwner : Address) (tokenId : ℕ)
  | safeTransferFromWithData (fromOwner newOwner : Address) (tokenId : ℕ) (data : List UInt8)
  deriving DecidableEq

def run (s : SampraanAssetRegistry) : Call → Result SampraanAssetRegistry
  | .registerAsset assetIdDigest custodian classificationDigest metadataDigest =>
    registerAsset view msg assetIdDigest custodian classificationDigest metadataDigest s
  | .assignAsset tokenId custodian => assignAsset view msg tokenId custodian s
  | .transferCustody tokenId toCustodian => transferCustody view msg tokenId toCustodian s
  | .activateAsset tokenId => activateAsset view msg tokenId s
  | .suspendAsset tokenId => suspendAsset view msg tokenId s
  | .restoreAsset tokenId => restoreAsset view msg tokenId s
  | .revokeAsset tokenId => revokeAsset view msg tokenId s
  | .flagAnomaly target tokenId reason => flagAnomaly view msg target tokenId reason s
  | .raiseDispute tokenId evidenceHash reason => raiseDispute view msg tokenId evidenceHash reason s
  | .resolveDispute disputeId upheld reason => resolveDispute view msg disputeId upheld reason s
  | .storeAuditReportHash reportHash => storeAuditReportHash view msg reportHash s
  | .governancePause => governancePause governance msg s
  | .governanceUnpause => governanceUnpause governance msg s
  | .governanceBurnNFT tokenId reason => governanceBurnNFT governance msg tokenId reason s
  | .governanceForceTransfer tokenId toCustodian reason =>
    governanceForceTransfer governance msg tokenId toCustodian reason s
  | .governanceGrantRole .. | .governanceRevokeRole .. | .governanceDeactivateIdentity .. =>
    throw .invalidAssetStatus
  | .approve .. | .setApprovalForAll .. | .transferFrom .. | .safeTransferFrom ..
  | .safeTransferFromWithData .. => throw .custodyTransferForbidden

def machine : Machine (View × Msg × Call) SampraanAssetRegistry Revert where
  run k s := run governance k.1 k.2.1 s k.2.2

end SampraanAssetRegistry

end Sampraan.Contracts
