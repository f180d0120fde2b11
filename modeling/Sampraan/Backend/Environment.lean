import Sampraan.Backend.World
import Sampraan.Library.Async
import Mathlib.Algebra.Order.Group.Int

/-!
What the handlers take from outside: the process environment, the cryptographic
libraries and the chain adapter's configuration. The cryptographic functions
are arbitrary.
-/

namespace Sampraan.Backend

open Library (Async)

/-! ### Errors -/

inductive TRPCErrorCode where
  | badRequest
  | unauthorized
  | forbidden
  | notFound
  | preconditionFailed
  | conflict
  | payloadTooLarge
  | unprocessableContent
  | tooManyRequests
  | badGateway
  | internalServerError
  deriving DecidableEq

inductive Error where
  | trpc (code : TRPCErrorCode) (message : String)
  | named (name message : String)
  | other (message : String)
  deriving DecidableEq

def TRPCErrorCode.label : TRPCErrorCode → String
  | .badRequest => "BAD_REQUEST"
  | .unauthorized => "UNAUTHORIZED"
  | .forbidden => "FORBIDDEN"
  | .notFound => "NOT_FOUND"
  | .preconditionFailed => "PRECONDITION_FAILED"
  | .conflict => "CONFLICT"
  | .payloadTooLarge => "PAYLOAD_TOO_LARGE"
  | .unprocessableContent => "UNPROCESSABLE_CONTENT"
  | .tooManyRequests => "TOO_MANY_REQUESTS"
  | .badGateway => "BAD_GATEWAY"
  | .internalServerError => "INTERNAL_SERVER_ERROR"

/-- The message, the name and the code of an error; the codes of the client library are left
out. -/
def describeError : Error → String
  | .trpc code message => message ++ " TRPCError " ++ code.label
  | .named name message => message ++ " " ++ name
  | .other message => message ++ " Error"

abbrev Promise (α : Type) := Async World Error α

/-! ### Dates -/

/-- Year, month and day of the day `z` days after 1970-01-01. -/
def civilFromDays (z : ℤ) : ℤ × ℤ × ℤ :=
  let z := z + 719468
  let era := z / 146097
  let doe := z % 146097
  let yoe := (doe - doe / 1460 + doe / 36524 - doe / 146096) / 365
  let doy := doe - (365 * yoe + yoe / 4 - yoe / 100)
  let mp := (5 * doy + 2) / 153
  let month := if mp < 10 then mp + 3 else mp - 9
  (yoe + era * 400 + (if month ≤ 2 then 1 else 0), month, doy - (153 * mp + 2) / 5 + 1)

def padStart (width : ℕ) (n : ℤ) : String :=
  let digits := toString n
  String.ofList (List.replicate (width - digits.length) '0') ++ digits

def isoYear (y : ℤ) : String :=
  if 0 ≤ y ∧ y ≤ 9999 then padStart 4 y
  else if y < 0 then "-" ++ padStart 6 (-y)
  else "+" ++ padStart 6 y

def toISOString (t : Time) : String :=
  let (year, month, day) := civilFromDays (t / 86400000)
  let ms := t % 86400000
  isoYear year ++ "-" ++ padStart 2 month ++ "-" ++ padStart 2 day ++ "T" ++
    padStart 2 (ms / 3600000) ++ ":" ++ padStart 2 (ms / 60000 % 60) ++ ":" ++
    padStart 2 (ms / 1000 % 60) ++ "." ++ padStart 3 (ms % 1000) ++ "Z"

example : toISOString 1709210096789 = "2024-02-29T12:34:56.789Z" := by decide

/-! ### Strings -/

/-- `String.prototype.toLowerCase` on the characters that labels and addresses are made of. -/
def toLowerCase (s : String) : String := String.ofList (s.toList.map Char.toLower)

def toUpperCase (s : String) : String := String.ofList (s.toList.map Char.toUpper)

def sliceTo (n : ℕ) (s : String) : String := String.ofList (s.toList.take n)

/-- JavaScript `value || default` on an optional string. -/
def orDefault (value : Option String) (default : String) : String :=
  match value with
  | some v => if v = "" then default else v
  | none => default

/-! ### The environment -/

structure ProcessEnv where
  viteAppId : Option String
  nodeEnv : Option String
  pqcKeyProvider : Option String
  pqcPrivateKey : Option String
  pqcAllowDevKeysInProduction : Option String
  blockchainPrivateKey : Option String

abbrev Bytes := List UInt8

/-- The functions of `ethers` that the handlers call. Digests and packed data are hex strings;
`verifyMessage` gives the recovered address, or throws. -/
structure Ethers where
  toUtf8Bytes : String → Bytes
  keccak256 : Bytes → String
  /-- `solidityPacked(["bytes32", "string"], [word, text])`, as bytes. -/
  solidityPacked : String → String → Bytes
  walletAddress : String → String
  verifyMessage : String → String → Option String

/-- The functions of `@noble/post-quantum` and the text encoder around them. `verify` throws when
it gives `none`. -/
structure MlDsa65 where
  utf8 : String → Bytes
  keygen : Bytes → Bytes × Bytes
  verify : Bytes → Bytes → Bytes → Option Bool

/-- `createHash("sha256")` of a text and of raw bytes, in hex. -/
structure Sha256 where
  text : String → String
  bytes : Bytes → String

inductive AnchorOutcome where
  | anchored
  | skipped
  | failed
  deriving DecidableEq

def AnchorOutcome.label : AnchorOutcome → String
  | .anchored => "ANCHORED"
  | .skipped => "SKIPPED"
  | .failed => "FAILED"

structure AnchorResult where
  outcome : AnchorOutcome
  reason : Option String
  deriving DecidableEq

structure ProposeTransaction where
  kind : ℕ
  target : String
  role : String
  account : String
  tokenId : ℕ
  reason : String
  deriving DecidableEq

structure MinedProposal where
  proposalId : ℕ
  executableAt : ℕ
  requiredApprovals : ℕ
  deriving DecidableEq

/-- The errors of the contracts that a transaction of the modelled handlers can meet whatever the
ledger does not hold. -/
inductive RegistryError where
  | assetAlreadyRegistered
  | assetNotRegistered
  | sameAssetStatus
  | invalidAssetStatus
  | identityNotRegistered
  | sameStatus
  | alreadyRegistered
  | notPending
  | invalidStatus
  | zeroAddress
  | alreadyExecuted
  | proposalNotPending
  | notApprovedEnough
  | timelockNotElapsed
  | emptyEvidenceHash
  | assetDisputed
  | disputeNotOpen
  deriving DecidableEq

def RegistryError.label : RegistryError → String
  | .assetAlreadyRegistered => "AssetAlreadyRegistered"
  | .assetNotRegistered => "AssetNotRegistered"
  | .sameAssetStatus => "SameAssetStatus"
  | .invalidAssetStatus => "InvalidAssetStatus"
  | .identityNotRegistered => "IdentityNotRegistered"
  | .sameStatus => "SameStatus"
  | .alreadyRegistered => "AlreadyRegistered"
  | .notPending => "NotPending"
  | .invalidStatus => "InvalidStatus"
  | .zeroAddress => "ZeroAddress"
  | .alreadyExecuted => "AlreadyExecuted"
  | .proposalNotPending => "ProposalNotPending"
  | .notApprovedEnough => "NotApprovedEnough"
  | .timelockNotElapsed => "TimelockNotElapsed"
  | .emptyEvidenceHash => "EmptyEvidenceHash"
  | .assetDisputed => "AssetDisputed"
  | .disputeNotOpen => "DisputeNotOpen"

/-- `besuBlockchainService` when it is configured: its configuration, and what the chain answers.
`revertMessage` is the text with which the client library reports a revert. -/
structure BesuConfig where
  privateKey : Option String
  identityContractAddress : Option String
  assetContractAddress : Option String
  accessControlContractAddress : Option String
  governanceContractAddress : Option String
  initializationError : Option String
  anchorIdentity : String → String → AnchorResult
  resolveAssetId : String → ℕ
  propose : ProposeTransaction → Except String MinedProposal
  revertMessage : RegistryError → String := RegistryError.label
  secondSignerPrivateKey : Option String := none

structure Environment where
  databaseConfigured : Bool
  process : ProcessEnv
  ethers : Ethers
  mlDsa65 : MlDsa65
  sha256 : Sha256
  besu : Option BesuConfig

variable (env : Environment)

def challengeAudience : String := orDefault env.process.viteAppId "sampraan"

def keyIdentifierFor (did : String) (generation : ℕ) : String :=
  s!"key-{generation}-" ++ sliceTo 12 (env.sha256.text (did ++ s!"#{generation}"))

/-- The wallet whose signatures count as the DID's, from the operator key. -/
def deriveIdentityWallet (operatorKey did : String) : String :=
  env.ethers.walletAddress
    (env.ethers.keccak256
      (env.ethers.solidityPacked (env.ethers.keccak256 (env.ethers.toUtf8Bytes operatorKey)) did))

/-! ### Database access -/

/-- An insert: it is rejected when it would break a key. -/
def insert (f : World → Option World) : Promise Unit := do
  let done ← Async.statement fun w =>
    match f w with
    | some w' => (true, w')
    | none => (false, w)
  if done then pure () else throw (.other "Duplicate entry")

def selectIdentityById (id : String) : Promise (Option IdentityRow) :=
  Async.query fun w => w.identities.find? (·.id == id)

def getIdentityByLinkedUserId (linkedUserId : ℕ) : Promise (Option IdentityRow) :=
  if !env.databaseConfigured then pure none
  else Async.query fun w => w.identities.find? (·.linkedUserId == some linkedUserId)

/-- The role names of `getIdentityRolesAndPermissions`. -/
def getIdentityRoles (identityId : String) : Promise (List String) :=
  if !env.databaseConfigured then pure []
  else Async.query fun w =>
    (w.identityRoles.filter (·.identityId == identityId)).map IdentityRoleRow.roleName

def getAssetByAssetId (assetId : String) : Promise (Option AssetRow) :=
  if !env.databaseConfigured then pure none
  else Async.query fun w => w.assets.find? (·.assetId == assetId)

def selectDidRecord (did : String) : Promise (Option DidRecordRow) :=
  Async.query fun w => w.didRecords.find? (·.did == did)

/-- `createAuditEvent(…).catch(() => undefined)`: an insert and a select of the new row. -/
def createAuditEvent (event : AuditEventRow) : Promise Unit :=
  if env.databaseConfigured then do
    Async.statement fun w => ((), { w with auditEvents := w.auditEvents ++ [event] })
    Async.query fun _ => ()
  else pure ()

/-! ### A sample deployment -/

/-- A deployment with one identity. Its holder's signatures recover to `0xa11ce`, those of anyone
else to `0xb0b`, and a text that is neither does not parse as a signature. -/
def sampleEnvironment : Environment where
  databaseConfigured := true
  process :=
    { viteAppId := none
      nodeEnv := some "production"
      pqcKeyProvider := some "registered"
      pqcPrivateKey := none
      pqcAllowDevKeysInProduction := none
      blockchainPrivateKey := some "0x01" }
  ethers :=
    { toUtf8Bytes := fun text => text.toList.map fun c => UInt8.ofNat c.toNat
      keccak256 := fun _ => "0xd1"
      solidityPacked := fun _ _ => []
      walletAddress := fun _ => "0xA11CE"
      verifyMessage := fun _ signature =>
        if signature = "signed by the holder" then some "0xA11CE"
        else if signature = "signed by another" then some "0xB0B"
        else none }
  mlDsa65 :=
    { utf8 := fun text => text.toList.map fun c => UInt8.ofNat c.toNat
      keygen := fun _ => ([], [])
      verify := fun _ _ signature => some (signature.all (· == 1)) }
  sha256 := { text := fun _ => "5ca1ab1e5ca1ab1e", bytes := fun _ => "5ca1ab1e5ca1ab1e" }
  besu := some
    { privateKey := some "0x01"
      identityContractAddress := some "0x1D"
      assetContractAddress := some "0xA55E7"
      accessControlContractAddress := some "0xAC"
      governanceContractAddress := some "0x60"
      initializationError := none
      anchorIdentity := fun _ _ => { outcome := .anchored, reason := none }
      resolveAssetId := fun _ => 1
      propose := fun _ => .ok { proposalId := 1, executableAt := 1700003600, requiredApprovals := 2 } }

def sampleWorld : World where
  now := 1700000000000
  identities :=
    [{ id := "holder"
       linkedUserId := some 1
       displayName := "Holder"
       status := .active
       did := "did:sampraan:holder"
       lifecycleState := .verified }]
  identityRoles := [{ identityId := "holder", roleName := "ADMIN" }]
  didRecords :=
    [{ identityId := "holder"
       did := "did:sampraan:holder"
       status := .active
       keyStatus := .active
       keyIdentifier := some "key-1" }]
  stepUpSessions := []
  pqcKeyRecords := []
  assuranceChallenges := []
  assets := []
  auditEvents := []
  submittedActions := []

end Sampraan.Backend
