import Sampraan.Governance.Submissions
import Sampraan.Governance.Downgrade
import Sampraan.Governance.Gate
import Sampraan.Governance.Router
import Sampraan.Library.Async
import Sampraan.Library.Interleaving
import Sampraan.Library.Table
import Sampraan.CryptoAssurance.Grants
import Sampraan.Did.StepUpSoundness
import Sampraan.CryptoAssurance.DualSignature
import Sampraan.CryptoAssurance.GrantSoundness
import Sampraan.CryptoAssurance.Router
import Sampraan.CryptoAssurance.SingleUse
import Sampraan.Contracts.Roles
import Sampraan.Contracts.IdentityLifecycle
import Sampraan.Contracts.Disputes
import Sampraan.Contracts.Holds
import Sampraan.Contracts.Chain
import Sampraan.Contracts.Custody
import Sampraan.Contracts.Authorization
import Sampraan.Contracts.Evidence
import Sampraan.Contracts.Governance
import Sampraan.Contracts.GovernanceSafety
import Sampraan.Contracts.RoleProposals
import Sampraan.Governance.Payload
import Sampraan.Library.Recall
import Sampraan.Identities.Lockstep
import Sampraan.Identities.LastAdmin
import Sampraan.Identities.Exclusivity
import Sampraan.Library.ActThenMark
import Sampraan.Backend.Besu
import Sampraan.Backend.AssetTables
import Sampraan.Governance.Transfer
import Sampraan.Governance.TransferSystem
import Sampraan.Governance.TransferAuthority
import Sampraan.Governance.TransferStates
import Sampraan.Backend.MintTables
import Sampraan.Governance.Mint
import Sampraan.Governance.MintSystem
import Sampraan.Governance.MintAuthority
import Sampraan.Governance.MintCompletion
import Sampraan.Backend.RecoveryTables
import Sampraan.Did.KeyRotation
import Sampraan.Governance.Recovery
import Sampraan.Governance.RecoverySystem
import Sampraan.Governance.RecoveryOnce
import Sampraan.Backend.ApprovalTables
import Sampraan.Assets.Authorization
import Sampraan.Assets.AuthorizeTransfer
import Sampraan.Assets.TransferSystem
import Sampraan.Assets.ApprovalUse
import Sampraan.Governance.ManagerScope
import Sampraan.Did.KeyLifecycle
import Sampraan.Library.Decimal
import Sampraan.CryptoAssurance.PqcKeys
import Sampraan.CryptoAssurance.KeyHistory
import Sampraan.Did.StepUpLifecycle
import Sampraan.Did.Challenge
import Sampraan.Did.ChallengeSoundness
import Sampraan.Did.KeyRetirement
import Sampraan.Blockchain.Indexer
import Sampraan.Governance.Proposals
import Sampraan.Governance.ReadModel
import Sampraan.Governance.Disputes
import Sampraan.Governance.DisputeHold
import Sampraan.Library.Promises
import Sampraan.Blockchain.SubmitQueue
import Sampraan.Blockchain.SubmitOrder
import Sampraan.Blockchain.DoubleSubmission
import Sampraan.Assets.DryRun
import Sampraan.Library.Phases
import Sampraan.Library.Base64
import Sampraan.Library.Json
import Sampraan.Auth.Throttle
import Sampraan.Auth.Password
import Sampraan.Auth.Sessions
import Sampraan.Auth.Login
import Sampraan.Auth.GuessBound
import Sampraan.Auth.Revocation
import Sampraan.AssetContent.Storage
import Sampraan.AssetContent.FilePolicy
import Sampraan.AssetContent.Content
import Sampraan.AssetContent.RoundTrip
import Sampraan.AssetContent.Access
import Sampraan.AssetContent.VersionNumbers
import Sampraan.AssetContent.Versions
import Sampraan.Blockchain.IndexerRuns
import Sampraan.Assets.EngineLaws
import Sampraan.AssetContent.AccessLaws
import Sampraan.Library.Lines
import Sampraan.CryptoAssurance.PayloadText
import Sampraan.CryptoAssurance.PayloadText
import Sampraan.Governance.MintAdmission
import Sampraan.Backend.IsoDate
import Sampraan.Governance.Presentation
import Sampraan.Governance.PresentationUse
import Sampraan.AssetContent.AccessGrants
import Sampraan.AssetContent.GrantRaces
import Sampraan.SecurityIntelligence.Scan
import Sampraan.SecurityIntelligence.ScanRuns
import Sampraan.Contracts.RoleGrants
import Sampraan.CryptoAssurance.OpenPolicy
import Sampraan.CryptoAssurance.FailClosed
import Sampraan.Blockchain.ScanGuard
import Sampraan.Blockchain.NoDuplicates
import Sampraan.Blockchain.NoLoss
import Sampraan.Contracts.Quorum
import Sampraan.CryptoAssurance.Canonical
import Sampraan.Library.Base32
import Sampraan.AssetContent.References
import Sampraan.Auth.Lockout
import Sampraan.Auth.PasswordRows
import Sampraan.Common.RateLimit
import Sampraan.AssetContent.FileNames
import Sampraan.AssetContent.CrashStore
import Sampraan.AssetContent.TextUploads
import Sampraan.Contracts.CustodyEvents
import Sampraan.Graph.TransferHistory
import Sampraan.Library.Endless
import Sampraan.Blockchain.EveryLog
import Sampraan.Contracts.IndexedEvents
import Sampraan.Graph.Subgraph
import Sampraan.Graph.SubgraphIdentities
import Sampraan.Graph.SubgraphAssets
import Sampraan.Graph.SubgraphRows
import Sampraan.Graph.IdentityQuery
import Sampraan.Graph.RoleQuery
import Sampraan.Assets.Approvals
import Sampraan.Assets.ApprovalDuties
import Sampraan.Contracts.Balances
import Sampraan.Contracts.Coalitions
import Sampraan.Graph.AssetQuery
import Sampraan.Blockchain.IdentityOperations
import Sampraan.Blockchain.Anchoring
import Sampraan.Blockchain.AnchorEvidence
import Sampraan.Blockchain.AnchorAnswers
import Sampraan.Blockchain.AnchoringSteps
import Sampraan.Blockchain.AnchoringSafety
import Sampraan.Blockchain.AnchorLifecycle
