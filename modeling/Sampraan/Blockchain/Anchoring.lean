import Sampraan.Blockchain.IdentityOperations
import Sampraan.Governance.Router

/-! The identity half of `anchoring.service.ts`, and the status changes that `governance.router.ts`
and `routers.ts` bring to the chain after it. -/

namespace Sampraan.Blockchain.Anchoring

open Backend (Environment BesuConfig AnchorOutcome AuditEventRow deriveIdentityWallet toLowerCase)
open Contracts Library SubmitQueue

variable (env : Environment) (link : Link)

structure AnchorResult where
  outcome : AnchorOutcome
  walletAddress : Option String
  transactionHash : Option String
  blockNumber : Option ℕ
  reason : Option String
  deriving DecidableEq

/-- Selector of the contracts' AlreadyRegistered() custom error. -/
def alreadyRegisteredSelector : String := "0x3a81d6fc"

def isAlreadyRegisteredError (reason : String) : Bool :=
  includes reason alreadyRegisteredSelector || includes (toLowerCase reason) "already registered"

def anchorAuditRow (resourceId : String) (result : AnchorResult) : AuditEventRow where
  actorIdentityId := none
  action := Governance.auditByOutcome result.outcome
  resourceType := "IDENTITY_OR_ASSET"
  resourceId := resourceId
  decision := Governance.decisionByOutcome result.outcome
  reason := result.reason.getD s!"On-chain anchor {toLowerCase result.outcome.label}"
  transactionHash := result.transactionHash
  blockNumber := result.blockNumber

/-- `createAuditEvent(…).catch(…)` -/
def persistAnchorAudit (resourceId : String) (result : AnchorResult) : Promise Unit :=
  if env.databaseConfigured then
    Async.statement fun n =>
      ((), if n.databaseUp then
        { n with auditEvents := n.auditEvents ++ [anchorAuditRow resourceId result] } else n)
  else pure ()

def requireOperatorKey (besu : BesuConfig) : Promise String :=
  let privateKey := besu.privateKey.getD ""
  if privateKey = "" then
    throw (plainError "Operator key is not configured; cannot derive identity wallets")
  else pure privateKey

def skipped (reason : String) (walletAddress : Option String) : AnchorResult where
  outcome := .skipped
  walletAddress := walletAddress
  transactionHash := none
  blockNumber := none
  reason := some reason

def failed (error : ChainError) : AnchorResult where
  outcome := .failed
  walletAddress := none
  transactionHash := none
  blockNumber := none
  reason := some (describeError error)

def anchored (walletAddress : Option String) (evidence : Option TransactionEvidence) :
    AnchorResult where
  outcome := .anchored
  walletAddress := walletAddress
  transactionHash := evidence.map TransactionEvidence.transactionHash
  blockNumber := evidence.map TransactionEvidence.blockNumber
  reason := none

/-- No evidence when the identity has been registered before. -/
def registerOnce (did walletAddress : String) : Promise (Option TransactionEvidence) :=
  tryCatch
    (do return some (← registerIdentity env link did walletAddress))
    fun error =>
      if isAlreadyRegisteredError (describeError error) then pure none else throw error

/-- The `try` block of `anchorIdentity`. -/
def provision (besu : BesuConfig) (did displayName : String) : Promise AnchorResult := do
  let operatorKey ← requireOperatorKey besu
  let walletAddress := deriveIdentityWallet env operatorKey did
  let evidence ← registerOnce env link did walletAddress
  let promotion ← verifyIdentityOnChain link walletAddress
    s!"platform identity provisioning: {displayName}"
  if evidence = none ∧ promotion = none then
    pure (skipped s!"Identity {did} is already anchored on-chain" (some walletAddress))
  else pure (anchored (some walletAddress) (promotion.or evidence))

def attemptAnchor (did displayName : String) : Promise AnchorResult :=
  match env.besu with
  | none => pure (skipped
      "Blockchain is not configured (MOCK mode); identity is not anchored on-chain" none)
  | some besu => tryCatch (provision env link besu did displayName) fun error => pure (failed error)

/-- A skipped attempt is recorded inside of the `try` block, where nothing is rejected any more. -/
def anchorIdentity (did displayName : String) : Promise AnchorResult := do
  let result ← attemptAnchor env link did displayName
  persistAnchorAudit env did result
  pure result

/-! ### After a change of the read model -/

def governanceUnavailable : ChainError where
  name := "TRPCError"
  message := "Blockchain/governance is not configured (MOCK mode) — this operation requires the " ++
    "deployed contracts"
  code := some (.text "PRECONDITION_FAILED")

def resolveOnChainWallet (did displayName : String) : Promise String :=
  match env.besu with
  | none => throw governanceUnavailable
  | some besu =>
    if besu.privateKey.getD "" = "" then throw governanceUnavailable
    else do
      let _ ← anchorIdentity env link did displayName
      pure (deriveIdentityWallet env (besu.privateKey.getD "") did)

/-- The `try` blocks of `lifecycle.verify`, `lifecycle.suspend` and `lifecycle.reactivate`;
`unexplained` is the outcome for an error that has no description. -/
def anchorLifecycle (status : Backend.IdentityStatus) (unexplained : AnchorOutcome)
    (did displayName reason : String) : Promise AnchorResult :=
  tryCatch
    (do
      let wallet ← resolveOnChainWallet env link did displayName
      let _ ← setIdentityStatus link wallet status (some reason)
      pure (anchored none none))
    fun error => pure
      { failed error with
        outcome := if describeError error = "" then unexplained else .failed }

def anchorVerify : String → String → String → Promise AnchorResult :=
  anchorLifecycle env link .active .skipped

def anchorSuspend : String → String → String → Promise AnchorResult :=
  anchorLifecycle env link .suspended .failed

def anchorReactivate : String → String → String → Promise AnchorResult :=
  anchorLifecycle env link .active .failed

def isSameStatusError (message : String) : Bool :=
  includes message "0x24904fe5" || includes (toLowerCase message) "same status"

/-- The inner `try` block of `identities.setStatus`. -/
def anchorStatus (walletAddress : String) (status : Backend.IdentityStatus) : Promise AnchorResult :=
  tryCatch
    (do
      let evidence ← setIdentityStatus link walletAddress status none
      pure { anchored none none with reason := some evidence.transactionHash })
    fun error =>
      if isSameStatusError error.message then
        pure (skipped "On-chain status already matches the requested status" none)
      else throw error

/-- What `identities.setStatus` brings to the chain. -/
def anchorStatusChange (did displayName : String) (status : Backend.IdentityStatus) :
    Promise (Option AnchorResult) :=
  match env.besu with
  | none => pure none
  | some besu => do
    let anchor ← tryCatch
      (if besu.privateKey.getD "" = "" then
        pure (skipped "Operator key not configured; status change not anchored on-chain" none)
      else do
        let _ ← anchorIdentity env link did displayName
        anchorStatus link (deriveIdentityWallet env (besu.privateKey.getD "") did) status)
      fun error => pure (failed error)
    pure (some anchor)

/-! ### The system -/

inductive Change where
  | verify (reason : String)
  | suspend (reason : String)
  | reactivate (reason : String)
  | setStatus (status : Backend.IdentityStatus)
  deriving DecidableEq

def Change.status : Change → Backend.IdentityStatus
  | .verify _ | .reactivate _ => .active
  | .suspend _ => .suspended
  | .setStatus status => status

/-- One identity, and the change of it, if the call is not for its anchor alone. -/
structure AnchorCall where
  did : String
  displayName : String
  change : Option Change
  deriving DecidableEq

def AnchorCall.body (call : AnchorCall) : Promise (Option AnchorResult) :=
  match call.change with
  | none => do return some (← anchorIdentity env link call.did call.displayName)
  | some (.verify reason) => do return some (← anchorVerify env link call.did call.displayName reason)
  | some (.suspend reason) => do return some (← anchorSuspend env link call.did call.displayName reason)
  | some (.reactivate reason) => do
    return some (← anchorReactivate env link call.did call.displayName reason)
  | some (.setStatus status) => anchorStatusChange env link call.did call.displayName status

/-- Others call the contracts, a transaction of the pool is mined, or what the node and the database
do next changes. -/
inductive Interferes (link : Link) (n : Network) : Network → Prop
  | transaction (msg : Msg) (call : Chain.Call) (chain : Chain)
    (h : Chain.run link.governance msg n.chain call = .ok chain) :
    Interferes link n { n with chain := chain, blocks := n.blocks ++ [((msg, call), n.chain, chain)] }
  | mined (k : ℕ) : Interferes link n (mine link k n)
  | elsewhere (t : Network) (hchain : t.chain = n.chain) (hblocks : t.blocks = n.blocks)
    (hpool : t.pool = n.pool) (haudits : n.auditEvents <+: t.auditEvents) : Interferes link n t

def anchorSystem (env : Environment) (link : Link) :
    System AnchorCall Network ChainError (Option AnchorResult) where
  body := AnchorCall.body env link
  interfere := Interferes link

abbrev AnchorConfig := Config AnchorCall Network ChainError (Option AnchorResult)

end Sampraan.Blockchain.Anchoring
