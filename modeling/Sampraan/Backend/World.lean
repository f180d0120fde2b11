import Sampraan.Library.Json
import Mathlib.Data.Int.Notation
import Mathlib.Tactic.Common

/-!
What the handlers share: the clock, the MySQL tables and the governance
proposals handed to the chain adapter. Each row has the columns the modelled
handlers read or write. Times are milliseconds since the epoch, as `Date.now()`
gives them; that a timestamp column keeps whole seconds is left out.
-/

namespace Sampraan.Backend

abbrev Time := ℤ

inductive IdentityStatus where
  | active
  | revoked
  | suspended
  deriving DecidableEq

def IdentityStatus.label : IdentityStatus → String
  | .active => "ACTIVE"
  | .revoked => "REVOKED"
  | .suspended => "SUSPENDED"

inductive LifecycleState where
  | pending
  | verified
  | suspended
  | deactivated
  deriving DecidableEq

def LifecycleState.label : LifecycleState → String
  | .pending => "PENDING"
  | .verified => "VERIFIED"
  | .suspended => "SUSPENDED"
  | .deactivated => "DEACTIVATED"

structure IdentityRow where
  id : String
  linkedUserId : Option ℕ
  displayName : String
  status : IdentityStatus
  did : String
  lifecycleState : LifecycleState
  organization : String := ""
  scope : Option String := none
  deriving DecidableEq

/-- A row of `identity_roles` joined with `roles`. -/
structure IdentityRoleRow where
  identityId : String
  roleName : String
  deriving DecidableEq

/-- A row of `role_permissions` joined with `roles` and `permissions`. -/
structure RolePermissionRow where
  roleName : String
  permissionKey : String
  deriving DecidableEq

inductive DidStatus where
  | active
  | revoked
  deriving DecidableEq

inductive KeyStatus where
  | active
  | rotated
  | revoked
  deriving DecidableEq

def KeyStatus.label : KeyStatus → String
  | .active => "ACTIVE"
  | .rotated => "ROTATED"
  | .revoked => "REVOKED"

structure DidRecordRow where
  identityId : String
  did : String
  status : DidStatus
  keyStatus : KeyStatus
  keyIdentifier : Option String
  deriving DecidableEq

structure StepUpSessionRow where
  id : String
  identityId : String
  purpose : String
  nonce : String
  expiresAt : Time
  consumedAt : Option Time
  deriving DecidableEq

inductive DidPurpose where
  | authentication
  | stepUp
  deriving DecidableEq

def DidPurpose.label : DidPurpose → String
  | .authentication => "AUTHENTICATION"
  | .stepUp => "STEP_UP"

structure DidChallengeRow where
  id : String
  did : String
  purpose : DidPurpose
  audience : String
  keyIdentifier : Option String
  nonce : String
  message : String
  expiresAt : Time
  consumedAt : Option Time
  deriving DecidableEq

inductive PqcKeySource where
  | registered
  | serverDerived
  deriving DecidableEq

structure PqcKeyRecordRow where
  did : String
  keyIdentifier : String
  publicKey : String
  publicKeyFingerprint : String
  keySource : PqcKeySource
  status : KeyStatus
  createdAt : Time
  deriving DecidableEq

inductive AssuranceLevel where
  | baseline
  | elevated
  | quantumHardened
  deriving DecidableEq

def AssuranceLevel.label : AssuranceLevel → String
  | .baseline => "BASELINE"
  | .elevated => "ELEVATED"
  | .quantumHardened => "QUANTUM_HARDENED"

inductive SignatureAlgorithm where
  | ecdsaSecp256k1
  | mlDsa65
  deriving DecidableEq

def SignatureAlgorithm.label : SignatureAlgorithm → String
  | .ecdsaSecp256k1 => "ECDSA_SECP256K1"
  | .mlDsa65 => "ML_DSA_65"

inductive AssuranceOperation where
  | assetView
  | contentAccess
  | contentUpload
  | assetMint
  | assetAssign
  | assetTransfer
  | assetForceTransfer
  | assetBurn
  | assetStatusChange
  | identityVerify
  | identityStatusChange
  | identityRoleChange
  | identityRoleAdmin
  | didDocumentUpdate
  | didKeyRotate
  | didKeyRevoke
  | keyRecoveryRequest
  | keyRecoveryApprove
  | keyRecoveryExecute
  | governanceProposal
  | governanceApprove
  | governanceExecute
  | governanceCancel
  | governanceConfig
  | pauseRegistry
  | unpauseRegistry
  | disputeResolve
  | auditReportCommit
  | consentGrant
  deriving DecidableEq

def AssuranceOperation.label : AssuranceOperation → String
  | .assetView => "ASSET_VIEW"
  | .contentAccess => "CONTENT_ACCESS"
  | .contentUpload => "CONTENT_UPLOAD"
  | .assetMint => "ASSET_MINT"
  | .assetAssign => "ASSET_ASSIGN"
  | .assetTransfer => "ASSET_TRANSFER"
  | .assetForceTransfer => "ASSET_FORCE_TRANSFER"
  | .assetBurn => "ASSET_BURN"
  | .assetStatusChange => "ASSET_STATUS_CHANGE"
  | .identityVerify => "IDENTITY_VERIFY"
  | .identityStatusChange => "IDENTITY_STATUS_CHANGE"
  | .identityRoleChange => "IDENTITY_ROLE_CHANGE"
  | .identityRoleAdmin => "IDENTITY_ROLE_ADMIN"
  | .didDocumentUpdate => "DID_DOCUMENT_UPDATE"
  | .didKeyRotate => "DID_KEY_ROTATE"
  | .didKeyRevoke => "DID_KEY_REVOKE"
  | .keyRecoveryRequest => "KEY_RECOVERY_REQUEST"
  | .keyRecoveryApprove => "KEY_RECOVERY_APPROVE"
  | .keyRecoveryExecute => "KEY_RECOVERY_EXECUTE"
  | .governanceProposal => "GOVERNANCE_PROPOSAL"
  | .governanceApprove => "GOVERNANCE_APPROVE"
  | .governanceExecute => "GOVERNANCE_EXECUTE"
  | .governanceCancel => "GOVERNANCE_CANCEL"
  | .governanceConfig => "GOVERNANCE_CONFIG"
  | .pauseRegistry => "PAUSE_REGISTRY"
  | .unpauseRegistry => "UNPAUSE_REGISTRY"
  | .disputeResolve => "DISPUTE_RESOLVE"
  | .auditReportCommit => "AUDIT_REPORT_COMMIT"
  | .consentGrant => "CONSENT_GRANT"

inductive AssuranceReasonCode where
  | opBaseline
  | opElevatedRisk
  | opAdministrative
  | opIrreversible
  | classificationUnknown
  | classificationHighlySensitive
  | classificationCritical
  | riskMedium
  | riskHigh
  | riskCritical
  | roleAdminBlastRadius
  | roleAuditorReadOnly
  | custodyMismatch
  | custodyNotCustodian
  | approvalMissing
  | approvalRejected
  | stepUpNotSatisfied
  | pqcPolicyMandated
  | platformFloor
  deriving DecidableEq

def AssuranceReasonCode.label : AssuranceReasonCode → String
  | .opBaseline => "OP_BASELINE"
  | .opElevatedRisk => "OP_ELEVATED_RISK"
  | .opAdministrative => "OP_ADMINISTRATIVE"
  | .opIrreversible => "OP_IRREVERSIBLE"
  | .classificationUnknown => "CLASSIFICATION_UNKNOWN"
  | .classificationHighlySensitive => "CLASSIFICATION_HIGHLY_SENSITIVE"
  | .classificationCritical => "CLASSIFICATION_CRITICAL"
  | .riskMedium => "RISK_MEDIUM"
  | .riskHigh => "RISK_HIGH"
  | .riskCritical => "RISK_CRITICAL"
  | .roleAdminBlastRadius => "ROLE_ADMIN_BLAST_RADIUS"
  | .roleAuditorReadOnly => "ROLE_AUDITOR_READ_ONLY"
  | .custodyMismatch => "CUSTODY_MISMATCH"
  | .custodyNotCustodian => "CUSTODY_NOT_CUSTODIAN"
  | .approvalMissing => "APPROVAL_MISSING"
  | .approvalRejected => "APPROVAL_REJECTED"
  | .stepUpNotSatisfied => "STEP_UP_NOT_SATISFIED"
  | .pqcPolicyMandated => "PQC_POLICY_MANDATED"
  | .platformFloor => "PLATFORM_FLOOR"

structure AssuranceChallengeRow where
  id : String
  identityId : String
  did : String
  operation : AssuranceOperation
  resourceType : String
  resourceId : String
  assuranceLevel : AssuranceLevel
  requiredAlgorithms : List SignatureAlgorithm
  reasonCodes : List AssuranceReasonCode
  audience : String
  ecdsaKeyIdentifier : String
  pqcKeyIdentifier : Option String
  nonce : String
  message : String
  ecdsaVerified : Bool
  pqcVerified : Bool
  expiresAt : Time
  consumedAt : Option Time
  executedAt : Option Time
  deriving DecidableEq

inductive AssetClassification where
  | publicAsset
  | controlled
  | sensitive
  | highlySensitive
  | critical
  deriving DecidableEq

def AssetClassification.label : AssetClassification → String
  | .publicAsset => "PUBLIC"
  | .controlled => "CONTROLLED"
  | .sensitive => "SENSITIVE"
  | .highlySensitive => "HIGHLY_SENSITIVE"
  | .critical => "CRITICAL"

inductive AssetStatus where
  | active
  | revoked
  | pending
  deriving DecidableEq

def AssetStatus.label : AssetStatus → String
  | .active => "ACTIVE"
  | .revoked => "REVOKED"
  | .pending => "PENDING"

structure AssetRow where
  id : String
  assetId : String
  classification : AssetClassification
  name : String := ""
  type : String := ""
  description : Option String := none
  integrityHash : Option String := none
  ownerIdentityId : String := ""
  custodianIdentityId : String := ""
  tokenId : Option String := none
  status : AssetStatus := .pending
  deriving DecidableEq

inductive MintRequestStatus where
  | pending
  | approved
  | rejected
  | executed
  deriving DecidableEq

def MintRequestStatus.label : MintRequestStatus → String
  | .pending => "PENDING"
  | .approved => "APPROVED"
  | .rejected => "REJECTED"
  | .executed => "EXECUTED"

structure MintRequestRow where
  id : String
  assetId : String
  name : String
  type : String
  classification : AssetClassification
  description : Option String
  integrityHash : Option String
  ownerIdentityId : String
  custodianIdentityId : String
  requestedByIdentityId : String
  requesterScope : Option String
  status : MintRequestStatus
  decidedByIdentityId : Option String
  decisionReason : Option String
  tokenId : Option String
  transactionHash : Option String
  deriving DecidableEq

inductive TransferRequestStatus where
  | pending
  | accepted
  | approved
  | rejected
  | executed
  | cancelled
  deriving DecidableEq

def TransferRequestStatus.label : TransferRequestStatus → String
  | .pending => "PENDING"
  | .accepted => "ACCEPTED"
  | .approved => "APPROVED"
  | .rejected => "REJECTED"
  | .executed => "EXECUTED"
  | .cancelled => "CANCELLED"

structure AssetTransferRequestRow where
  id : String
  assetId : String
  tokenId : Option String
  fromIdentityId : String
  toIdentityId : String
  requestedByIdentityId : String
  status : TransferRequestStatus
  approverIdentityId : Option String
  decisionReason : Option String
  transactionHash : Option String
  deriving DecidableEq

inductive DisputeStatus where
  | opened
  | upheld
  | rejected
  deriving DecidableEq

structure AssetDisputeRow where
  id : String
  assetId : String
  status : DisputeStatus
  raisedByIdentityId : String := ""
  evidenceHash : String := ""
  reason : String := ""
  resolvedByIdentityId : Option String := none
  resolutionReason : Option String := none
  deriving DecidableEq

inductive KeyRecoveryStatus where
  | pending
  | awaitingAdmin
  | approved
  | rejected
  | executed
  deriving DecidableEq

def KeyRecoveryStatus.label : KeyRecoveryStatus → String
  | .pending => "PENDING"
  | .awaitingAdmin => "AWAITING_ADMIN"
  | .approved => "APPROVED"
  | .rejected => "REJECTED"
  | .executed => "EXECUTED"

structure KeyRecoveryRequestRow where
  id : String
  subjectIdentityId : String
  requestedByIdentityId : String
  newKeyDigest : String
  status : KeyRecoveryStatus
  decidedByIdentityId : Option String
  decisionReason : Option String
  executedAt : Option Time
  deriving DecidableEq

structure DidKeyRecordRow where
  did : String
  keyIdentifier : String
  status : KeyStatus
  supersededByKeyIdentifier : Option String
  note : Option String
  deriving DecidableEq

/-- A committed rotation of a DID's key. -/
structure KeyRotation where
  did : String
  previousKeyIdentifier : String
  newKeyIdentifier : String
  deriving DecidableEq

inductive ApprovalStatus where
  | pending
  | approved
  | rejected
  | executed
  deriving DecidableEq

def ApprovalStatus.label : ApprovalStatus → String
  | .pending => "PENDING"
  | .approved => "APPROVED"
  | .rejected => "REJECTED"
  | .executed => "EXECUTED"

structure AssetApprovalRow where
  id : String
  assetId : String
  requesterIdentityId : String
  action : String
  targetIdentityId : Option String
  status : ApprovalStatus
  createdAt : Time
  deriving DecidableEq

inductive AuditDecision where
  | allow
  | deny
  | challenge
  deriving DecidableEq

inductive AuditSource where
  | application
  | chainReadModel
  deriving DecidableEq

/-- The transaction, the block and the event's key (out of `metadata`) are those of the rows that the
indexer writes and reads back. -/
structure AuditEventRow where
  actorIdentityId : Option String
  action : String
  resourceType : String
  resourceId : String
  decision : AuditDecision
  reason : String
  transactionHash : Option String := none
  blockNumber : Option ℕ := none
  source : AuditSource := .application
  eventKey : Option String := none
  deriving DecidableEq

inductive GovernanceKind where
  | burnNft
  | forceTransfer
  | pauseRegistry
  | unpauseRegistry
  | grantRole
  | revokeRole
  | deactivateIdentity
  deriving DecidableEq

def GovernanceKind.label : GovernanceKind → String
  | .burnNft => "BURN_NFT"
  | .forceTransfer => "FORCE_TRANSFER"
  | .pauseRegistry => "PAUSE_REGISTRY"
  | .unpauseRegistry => "UNPAUSE_REGISTRY"
  | .grantRole => "GRANT_ROLE"
  | .revokeRole => "REVOKE_ROLE"
  | .deactivateIdentity => "DEACTIVATE_IDENTITY"

/-- The input of `BesuBlockchainService.proposeGovernanceAction`. -/
structure GovernanceAction where
  kind : GovernanceKind
  target : Option String
  role : Option String
  account : Option String
  assetId : Option String
  reason : String
  deriving DecidableEq

/-- What the asset registry holds for one registered asset, and the hash of the transaction that
minted its token. -/
structure LedgerAsset where
  assetId : String
  tokenId : ℕ
  custodian : String
  mintedBy : String
  revoked : Bool := false
  disputed : Bool := false
  deriving DecidableEq

/-- What the identity registry holds for one registered wallet. -/
structure LedgerIdentity where
  wallet : String
  didDigest : String := ""
  status : LifecycleState
  deriving DecidableEq

/-- What the asset registry holds for one dispute. -/
structure LedgerDispute where
  id : ℕ
  tokenId : ℕ
  isOpen : Bool
  upheld : Bool
  deriving DecidableEq

/-- What the governance contract holds for one proposal. -/
structure LedgerProposal where
  id : ℕ
  kind : GovernanceKind
  target : String
  account : String
  tokenId : ℕ
  createdAt : ℕ
  approvals : ℕ
  executed : Bool
  cancelled : Bool
  deriving DecidableEq

/-- A parsed log, with the arguments that the indexer looks at. -/
structure ChainEvent where
  name : String
  blockNumber : ℕ
  transactionHash : String
  assetIdDigest : Option String
  didDigest : Option String
  tokenId : Option String
  wallet : Option String
  deriving DecidableEq

inductive ChainAction where
  | registerAsset (assetId custodianWallet : String)
  | transferAsset (assetId toCustodianWallet : String)
  | executeProposal (proposalId : ℕ)
  | registerIdentity (wallet didDigest : String)
  | verifyIdentity (wallet : String)
  | suspendIdentity (wallet : String)
  | reactivateIdentity (wallet : String)
  | flagAnomaly (targetWallet : String) (tokenId : ℕ)
  | raiseDispute (tokenId : ℕ) (evidenceHash : String)
  | resolveDispute (disputeId : ℕ) (upheld : Bool)
  deriving DecidableEq

/-- A transaction handed to the node, with its hash when a receipt confirmed it. -/
structure ChainTransaction where
  action : ChainAction
  confirmed : Option String
  deriving DecidableEq

/-- The chain as the adapter meets it. `refusal` is the error with which the node would answer the
next call, whatever the reason; otherwise a transaction sent now is mined under `upcomingHash`. -/
structure Ledger where
  assets : List LedgerAsset := []
  transactions : List ChainTransaction := []
  refusal : Option String := none
  upcomingHash : String := ""
  identities : List LedgerIdentity := []
  disputes : List LedgerDispute := []
  proposals : List LedgerProposal := []
  quorumRequired : ℕ := 1
  timelockDelaySeconds : ℕ := 0
  timestamp : ℕ := 0
  events : List ChainEvent := []
  latestBlock : ℕ := 0
  deriving DecidableEq

/-! ### Users and sessions -/

structure UserRow where
  id : ℕ
  openId : String
  name : Option String
  email : Option String
  passwordHash : Option String
  deriving DecidableEq

/-- `sessionId` is the digest of the token. -/
structure SessionRow where
  identityId : String
  sessionId : String
  expiresAt : Time
  revokedAt : Option Time
  deriving DecidableEq

/-- The claims of a session token; `exp` is in seconds. -/
structure SessionClaims where
  openId : String
  appId : String
  name : String
  exp : ℤ
  deriving DecidableEq

structure ThrottleEntry where
  count : ℕ
  windowStartedAt : Time
  blockedUntil : Option Time
  deriving DecidableEq

/-- What a login for one e-mail address has come to: it was let through by the throttle, it starts
to verify the password, it has failed, or it has succeeded. -/
inductive LoginStage where
  | admitted
  | verifying
  | failed (entry : ThrottleEntry)
  | succeeded
  deriving DecidableEq

structure LoginEvent where
  key : String
  stage : LoginStage
  deriving DecidableEq

/-! ### Asset content -/

inductive GrantPermission where
  | view
  | edit
  deriving DecidableEq

structure AssetAccessGrantRow where
  id : String := ""
  assetId : String
  granteeIdentityId : String
  permission : GrantPermission
  grantedByIdentityId : String := ""
  reason : Option String := none
  revokedAt : Option Time
  deriving DecidableEq

structure AssetContentVersionRow where
  id : String
  assetId : String
  versionNumber : ℕ
  filename : String
  originalFilename : String
  mimeType : String
  sizeBytes : ℕ
  contentHash : String
  storageProvider : String
  storageReference : String
  encryption : Library.Json
  createdByIdentityId : String
  changeNote : Option String

/-! ### Ownership presentations and security alerts -/

structure OwnershipPresentationRow where
  id : String
  subjectIdentityId : String
  assetId : String
  verifierDid : String
  purpose : String
  nonce : String
  signature : String
  keyIdentifier : String
  message : String
  expiresAt : Time
  consumedAt : Option Time
  deriving DecidableEq

inductive AlertSeverity where
  | low
  | medium
  | high
  | critical
  deriving DecidableEq

inductive AlertStatus where
  | opened
  | investigating
  | resolved
  deriving DecidableEq

structure SecurityAlertRow where
  id : String
  title : String
  severity : AlertSeverity
  status : AlertStatus
  identityId : Option String
  assetId : Option String
  description : String
  riskScore : Option ℕ
  deriving DecidableEq

/-! ### The state -/

/-- `submittedActions` lists the calls that reached `proposeGovernanceAction`, `keyRotations` the
committed transactions of `rotateDidKey`, `loginTrail` the steps of the password logins and
`signedSessions` the claims of the session tokens signed so far. `indexing` and `indexedEventKeys`
are the memory of the process that runs the indexer, which has been started anew `restarts` times,
`failuresByEmail` that of the login throttle. While `databaseFails`, a statement whose failure its
caller survives is rejected, and while `dedupReadsFail` those with which the indexer looks for what
it has stored. `files` is the storage directory of the asset content, which cannot be written while
`diskFails`; `ipfsObjects` are the objects of the IPFS node, and `ipfsStatus` is the HTTP status of
its next answer, if it gives any. -/
structure World where
  now : Time
  identities : List IdentityRow
  identityRoles : List IdentityRoleRow
  didRecords : List DidRecordRow
  stepUpSessions : List StepUpSessionRow
  pqcKeyRecords : List PqcKeyRecordRow
  assuranceChallenges : List AssuranceChallengeRow
  assets : List AssetRow
  auditEvents : List AuditEventRow
  submittedActions : List GovernanceAction
  roles : List String := ["ADMIN", "MANAGER", "AUDITOR", "USER"]
  rolePermissions : List RolePermissionRow := []
  mintRequests : List MintRequestRow := []
  assetTransferRequests : List AssetTransferRequestRow := []
  assetDisputes : List AssetDisputeRow := []
  keyRecoveryRequests : List KeyRecoveryRequestRow := []
  didKeyRecords : List DidKeyRecordRow := []
  keyRotations : List KeyRotation := []
  assetApprovals : List AssetApprovalRow := []
  didChallenges : List DidChallengeRow := []
  ledger : Ledger := {}
  indexing : Bool := false
  indexedEventKeys : List String := []
  databaseFails : Bool := false
  users : List UserRow := []
  sessions : List SessionRow := []
  failuresByEmail : String → Option ThrottleEntry := fun _ => none
  loginTrail : List LoginEvent := []
  signedSessions : List SessionClaims := []
  assetAccessGrants : List AssetAccessGrantRow := []
  assetContentVersions : List AssetContentVersionRow := []
  dedupReadsFail : Bool := false
  restarts : ℕ := 0
  files : String → Option (List UInt8) := fun _ => none
  diskFails : Bool := false
  ipfsObjects : String → Option (List UInt8) := fun _ => none
  ipfsStatus : Option ℕ := some 200
  ownershipPresentations : List OwnershipPresentationRow := []
  securityAlerts : List SecurityAlertRow := []

end Sampraan.Backend
