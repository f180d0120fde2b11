import Sampraan.Blockchain.SubmitQueue
import Sampraan.Contracts.Chain
import Sampraan.CryptoAssurance.MlDsa
import Sampraan.Library.Recall

/-!
The identity operations of `besu-blockchain.service.ts` over the contracts. The
node takes the transactions of the operator into its pool and mines them when it
does; a request can be refused, and an answer can be lost after the node has
taken the transaction.
-/

namespace Sampraan.Blockchain.Anchoring

open Backend (Environment BesuConfig AuditEventRow)
open Contracts Library SubmitQueue

/-! ### Errors -/

structure ChainError where
  name : String
  message : String
  code : Option ErrorCode
  deriving DecidableEq

def plainError (message : String) : ChainError := ⟨"Error", message, none⟩

def errorCodeText : ErrorCode → String
  | .text code => code
  | .number code => toString code

def describeError (error : ChainError) : String :=
  CryptoAssurance.trim (" ".intercalate
    (([error.message, error.name] ++ (error.code.map errorCodeText).toList).filter (· ≠ "")))

def ChainError.thrown (error : ChainError) : Thrown := .object error.code (some error.message)

/-! ### The node -/

structure Receipt where
  hash : String
  succeeded : Bool
  blockNumber : ℕ
  deriving DecidableEq

/-- A transaction that the node has taken from the operator; it has a receipt once it is mined. -/
structure Transaction where
  call : SampraanIdentityRegistry.Call
  hash : String
  receipt : Option Receipt
  deriving DecidableEq

/-- `blocks` lists the calls that the chain has committed, those of others too. The errors are what
requests meet now: when the adapter is initialized, when the node refuses a request, and when the
answer to a broadcast is lost. -/
structure Network where
  chain : Chain
  blocks : List ((Msg × Chain.Call) × Chain × Chain)
  pool : List Transaction
  initialization : Option ChainError
  refusal : Option ChainError
  lostAnswer : Option ChainError
  timestamp : ℕ
  blockNumber : ℕ
  upcomingHash : String
  databaseUp : Bool
  auditEvents : List AuditEventRow

/-- The deployment, and what the client library makes of texts and of reverts. -/
structure Link where
  governance : Address
  operator : Address
  address : String → Address
  bytes32 : String → Bytes32
  revertError : Revert → ChainError

abbrev Promise := Async Network ChainError

variable (env : Environment) (link : Link)

def runNow (n : Network) (call : SampraanIdentityRegistry.Call) : Result Chain :=
  Chain.run link.governance { sender := link.operator, timestamp := n.timestamp } n.chain
    (.identityRegistry call)

/-- The gas estimate runs the call on the chain as it is. -/
def estimate (call : SampraanIdentityRegistry.Call) (n : Network) : Option ChainError :=
  match n.refusal with
  | some error => some error
  | none =>
    match runNow link n call with
    | .ok _ => none
    | .error revert => some (link.revertError revert)

def take (call : SampraanIdentityRegistry.Call) (n : Network) : Network :=
  { n with pool := n.pool ++ [{ call := call, hash := n.upcomingHash, receipt := none }] }

/-- Gives the place of the transaction in the pool. -/
def broadcast (call : SampraanIdentityRegistry.Call) (n : Network) : Except ChainError ℕ × Network :=
  match n.refusal with
  | some error => (.error error, n)
  | none =>
    match n.lostAnswer with
    | some error => (.error error, take call n)
    | none => (.ok n.pool.length, take call n)

def give (k : ℕ) (tx : Transaction) (succeeded : Bool) (n : Network) : List Transaction :=
  n.pool.set k { tx with receipt := some ⟨tx.hash, succeeded, n.blockNumber⟩ }

/-- The `k`-th transaction is mined, if it has not been before; one that reverts changes nothing. -/
def mine (k : ℕ) (n : Network) : Network :=
  match n.pool[k]? with
  | none => n
  | some tx =>
    if tx.receipt.isSome then n
    else
      match runNow link n tx.call with
      | .ok chain =>
        { n with
          chain := chain
          blocks := n.blocks ++
            [(({ sender := link.operator, timestamp := n.timestamp }, .identityRegistry tx.call),
              n.chain, chain)]
          pool := give k tx true n }
      | .error _ => { n with pool := give k tx false n }

/-- `tx.wait(1)`: the transaction has been mined by then, unless the request is refused. -/
def wait (k : ℕ) (n : Network) : Except ChainError (Option Receipt) × Network :=
  match n.refusal with
  | some error => (.error error, n)
  | none => (.ok (((mine link k n).pool[k]?).bind Transaction.receipt), mine link k n)

/-! ### The adapter -/

def ensureInitialized : Promise Unit := do
  match ← Async.query Network.initialization with
  | some error => throw error
  | none => pure ()

/-- A call of a view function. -/
def view {α : Type} (f : Chain → α) : Promise α := do
  match ← Async.query fun n => (n.refusal, f n.chain) with
  | (some error, _) => throw error
  | (none, a) => pure a

/-- The queue of `enqueueSubmit` only takes interleavings away, and the nonces that it resets are
not in the pool. -/
def enqueueSubmit {α : Type} (task : Promise α) : Promise α :=
  tryCatch task fun error => if isNonceError error.thrown then task else throw error

def send (call : SampraanIdentityRegistry.Call) : Promise ℕ := do
  match ← Async.query (estimate link call) with
  | some error => throw error
  | none => do
    match ← Async.statement (broadcast call) with
    | .error error => throw error
    | .ok k => pure k

structure TransactionEvidence where
  transactionHash : String
  blockNumber : ℕ
  deriving DecidableEq

def revertedIn (action hash : String) (blockNumber : ℕ) : ChainError :=
  plainError s!"On-chain {action} reverted in transaction {hash} (block {blockNumber})"

def awaitEvidence (k : ℕ) (action : String) : Promise TransactionEvidence := do
  match ← Async.statement (wait link k) with
  | .error error => throw error
  | .ok none => throw (plainError s!"Transaction for {action} was not mined")
  | .ok (some receipt) =>
    if !receipt.succeeded then throw (revertedIn action receipt.hash receipt.blockNumber)
    else pure { transactionHash := receipt.hash, blockNumber := receipt.blockNumber }

def submit (call : SampraanIdentityRegistry.Call) (action : String) : Promise TransactionEvidence := do
  let k ← send link call
  awaitEvidence link k action

def keccakText (text : String) : Bytes32 :=
  link.bytes32 (env.ethers.keccak256 (env.ethers.toUtf8Bytes text))

/-- The transaction of `registerIdentity`. -/
def registration (did walletAddress : String) : SampraanIdentityRegistry.Call :=
  .registerIdentity (link.address walletAddress) (keccakText env link did)
    (keccakText env link ("pk:" ++ did))

def registerIdentity (did walletAddress : String) : Promise TransactionEvidence := do
  ensureInitialized
  enqueueSubmit (submit link (registration env link did walletAddress) "IDENTITY_REGISTER")

/-- `input.reason?.trim() || …` -/
def reasonOr (reason : Option String) (default : String) : String :=
  let trimmed := CryptoAssurance.trim (reason.getD "")
  if trimmed = "" then default else trimmed

def verifyIdentityOnChain (walletAddress reason : String) : Promise (Option TransactionEvidence) := do
  ensureInitialized
  let current ← view fun chain => chain.identityRegistry.status (link.address walletAddress)
  if current ≠ .pending then pure none
  else do
    let evidence ← enqueueSubmit (submit link
      (.verifyIdentity (link.address walletAddress)
        (reasonOr (some reason) "identity verified by platform provisioning"))
      "IDENTITY_STATUS_CHANGE")
    pure (some evidence)

def statusCode : IdentityStatus → ℕ
  | .none => 0
  | .pending => 1
  | .verified => 2
  | .suspended => 3
  | .deactivated => 4

def statusChange (walletAddress reason : String) (status : Backend.IdentityStatus)
    (current : IdentityStatus) : Except ChainError SampraanIdentityRegistry.Call :=
  if current = .none then
    .error (plainError s!"Identity {walletAddress} is not registered on-chain")
  else if status ≠ .active ∧ current = .verified then
    .ok (.suspendIdentity (link.address walletAddress) reason)
  else if status = .active then
    if current = .pending then .ok (.verifyIdentity (link.address walletAddress) reason)
    else .ok (.reactivateIdentity (link.address walletAddress) reason)
  else
    .error (plainError (s!"Identity {walletAddress} cannot be suspended from on-chain state " ++
      s!"{statusCode current} (already inactive, or deactivation requires a governance proposal)"))

def setIdentityStatus (walletAddress : String) (status : Backend.IdentityStatus)
    (reason : Option String) : Promise TransactionEvidence := do
  ensureInitialized
  enqueueSubmit do
    let current ← view fun chain => chain.identityRegistry.status (link.address walletAddress)
    match statusChange link walletAddress (reasonOr reason s!"status change to {status.label}") status
        current with
    | .error error => throw error
    | .ok call => submit link call "IDENTITY_STATUS_CHANGE"

end Sampraan.Blockchain.Anchoring
