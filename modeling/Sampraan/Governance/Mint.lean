import Sampraan.Backend.Besu
import Sampraan.Backend.MintTables
import Sampraan.Governance.Transfer

/-! The maker-checker minting of `governance.router.ts`: request, decide, execute. -/

namespace Sampraan.Governance.Mint

open Backend Library
open CryptoAssurance (Actor)
open Transfer (matchesScope)

variable (env : Environment)

def requestNotFound : Error := .trpc .notFound "Mint request not found"

def auditMint (actor : Actor) (action resourceId reason : String) : Promise Unit :=
  audit env actor.identity.id action "ASSET" resourceId .allow reason

/-! ### request -/

structure RequestInput where
  assetId : String
  name : String
  type : String
  classification : AssetClassification
  description : Option String
  integrityHash : Option String
  ownerDid : String
  custodianDid : String
  deriving DecidableEq

def getMintRequestByAssetId (assetId : String) : Promise (Option MintRequestRow) := do
  let rows ← listMintRequests env
  pure (rows.find? (·.assetId == assetId))

def assertNoOpenRequest (assetId : String) : Promise Unit := do
  let existing ← getMintRequestByAssetId env assetId
  match existing with
  | none => pure ()
  | some existing =>
    if existing.status = .pending ∨ existing.status = .approved then
      throw (.trpc .conflict
        s!"A mint request for {assetId} already exists ({existing.status.label})")
    else pure ()

/-- `uuid` is what `crypto.randomUUID()` gives. -/
def request (user : Option ℕ) (uuid : String) (input : RequestInput) :
    Promise (Option MintRequestRow) := do
  let actor ← requireActor env user
  if !hasRole actor "MANAGER" then
    throw (.trpc .forbidden "Mint requests require the MANAGER role")
  else do
    let owner ← requireTarget env input.ownerDid
    let custodian ← requireTarget env input.custodianDid
    if !matchesScope actor owner.identity then
      throw (.trpc .forbidden "Owner identity is outside your scope")
    else if !matchesScope actor custodian.identity then
      throw (.trpc .forbidden "Custodian identity is outside your scope")
    else do
      assertNoOpenRequest env input.assetId
      let request ← createMintRequest env uuid
        { assetId := input.assetId
          name := input.name
          type := input.type
          classification := input.classification
          description := input.description
          integrityHash := input.integrityHash
          ownerIdentityId := owner.identity.id
          custodianIdentityId := custodian.identity.id
          requestedByIdentityId := actor.identity.id
          requesterScope := some (effectiveScope actor.identity) }
      auditMint env actor "MINT_REQUESTED" input.assetId s!"Mint requested for {input.name}"
      pure request

/-! ### decide -/

structure DecideInput where
  requestId : String
  decision : MintDecision
  reason : String
  deriving DecidableEq

def alreadyDecided : Error :=
  .trpc .preconditionFailed
    "Request already decided (status-guarded update found no PENDING row)"

def decide (user : Option ℕ) (input : DecideInput) : Promise MintRequestRow := do
  let actor ← requireActor env user
  assertAdmin actor "Mint decision"
  match ← getMintRequest env input.requestId with
  | none => throw requestNotFound
  | some request =>
    if request.status ≠ .pending then
      throw (.trpc .preconditionFailed
        s!"Only PENDING requests can be decided (this one is {request.status.label})")
    else if request.requestedByIdentityId = actor.identity.id then
      throw (.trpc .forbidden "Self-approval is not permitted (maker-checker)")
    else do
      match ← decideMintRequest env
        { id := input.requestId
          status := input.decision
          decidedByIdentityId := actor.identity.id
          decisionReason := input.reason } with
      | none => throw alreadyDecided
      | some updated => do
        auditMint env actor (if input.decision = .approved then "MINT_APPROVED" else "MINT_REJECTED")
          request.assetId input.reason
        pure updated

/-! ### execute -/

structure RequestId where
  requestId : String
  deriving DecidableEq

structure ExecuteResult where
  assetId : String
  tokenId : String
  transactionHash : Option String
  idempotent : Bool
  deriving DecidableEq

def isHexDigit (c : Char) : Bool :=
  ('0' ≤ c && c ≤ '9') || ('a' ≤ c && c ≤ 'f')

/-- The test of `/already registered|0x[0-9a-f]{8}/i`. -/
def mentionsRegistration (message : String) : Bool :=
  (toLowerCase message).toList.tails.any fun rest =>
    "already registered".toList.isPrefixOf rest ||
      ("0x".toList.isPrefixOf rest && ((rest.drop 2).take 8).length == 8 &&
        ((rest.drop 2).take 8).all isHexDigit)

def tokenIdOf : Option LedgerAsset → String
  | some record => toString record.tokenId
  | none => ""

def resolveTokenId (besu : BesuConfig) (assetId : String) : Promise String := do
  let record ← Besu.getAsset besu assetId
  pure (tokenIdOf record)

def rejectedMint (message : String) : Error :=
  .trpc .badGateway s!"Blockchain rejected the mint: {message}"

/-- The `catch` block of `registerAsset`. -/
def alreadyRegistered (besu : BesuConfig) (input : RequestId) (request : MintRequestRow)
    (error : Error) : Promise ExecuteResult :=
  if mentionsRegistration (describeError error) then do
    let existingToken ← resolveTokenId besu request.assetId
    if existingToken ≠ "" then do
      let _ ← markMintRequestExecuted env input.requestId existingToken ""
      pure
        { assetId := request.assetId
          tokenId := existingToken
          transactionHash := none
          idempotent := true }
    else throw (rejectedMint (describeError error))
  else throw (rejectedMint (describeError error))

def activate (besu : BesuConfig) (actor : Actor) (request : MintRequestRow) : Promise Unit :=
  tryCatch (Besu.setAssetStatus besu request.assetId) fun error =>
    createAuditEvent env
      { actorIdentityId := some actor.identity.id
        action := "BLOCKCHAIN_TRANSACTION_FAILED"
        resourceType := "ASSET"
        resourceId := request.assetId
        decision := .deny
        reason := s!"Post-mint on-chain activation failed: {describeError error}" }

def mintedAsset (uuid : String) (request : MintRequestRow) (owner custodian : IdentityRow) :
    AssetRow where
  id := uuid
  assetId := request.assetId
  classification := request.classification
  name := request.name
  type := request.type
  description := request.description
  integrityHash := request.integrityHash
  ownerIdentityId := owner.id
  custodianIdentityId := custodian.id
  tokenId := none
  status := .active

/-- What follows a confirmed registration. -/
def completeMint (besu : BesuConfig) (actor : Actor) (uuid : String) (input : RequestId)
    (request : MintRequestRow) (owner custodian : IdentityRow) (transactionHash : String) :
    Promise ExecuteResult := do
  let tokenId ← resolveTokenId besu request.assetId
  activate env besu actor request
  let asset ← tryCatch (createAsset env (mintedAsset uuid request owner custodian))
    fun _ => pure none
  match asset with
  | some asset => setAssetTokenId env asset.id tokenId
  | none => pure ()
  let _ ← markMintRequestExecuted env input.requestId tokenId transactionHash
  auditMint env actor "NFT_MINTED" request.assetId s!"Mint executed for {request.name}"
  pure
    { assetId := request.assetId
      tokenId := tokenId
      transactionHash := some transactionHash
      idempotent := false }

/-- The transaction of `registerAsset`, with the error that the `catch` block gets. -/
def tryRegister (besu : BesuConfig) (request : MintRequestRow) (custodianWallet : String) :
    Promise (Except Error String) :=
  tryCatch (do return .ok (← Besu.registerAsset besu request.assetId custodianWallet))
    fun error => pure (.error error)

/-- What `execute` has gathered when it registers the asset. -/
structure Prepared where
  besu : BesuConfig
  actor : Actor
  request : MintRequestRow
  owner : IdentityRow
  custodian : IdentityRow
  custodianWallet : String

def prepare (user : Option ℕ) (input : RequestId) : Promise Prepared := do
  let actor ← requireActor env user
  assertAdmin actor "Mint execution"
  match ← getMintRequest env input.requestId with
  | none => throw requestNotFound
  | some request =>
    if request.status ≠ .approved then
      throw (.trpc .preconditionFailed
        s!"Only APPROVED requests can be executed (this one is {request.status.label})")
    else if request.requestedByIdentityId = actor.identity.id then
      throw (.trpc .forbidden "Self-execution is not permitted (maker-checker)")
    else
      match env.besu with
      | none => throw governanceUnavailable
      | some besu => do
        let owner ← getIdentityById env request.ownerIdentityId
        let custodian ← getIdentityById env request.custodianIdentityId
        match owner, custodian with
        | some owner, some custodian =>
          if owner.lifecycleState ≠ .verified ∨ custodian.lifecycleState ≠ .verified then
            throw (.trpc .preconditionFailed "Request participant lifecycle is not VERIFIED")
          else do
            let custodianWallet ← resolveOnChainWallet env besu custodian.did custodian.displayName
            pure
              { besu := besu
                actor := actor
                request := request
                owner := owner
                custodian := custodian
                custodianWallet := custodianWallet }
        | _, _ => throw (.trpc .preconditionFailed "Request participants missing")

/-- `uuid` is the id of the row that `createAsset` inserts. -/
def execute (user : Option ℕ) (uuid : String) (input : RequestId) : Promise ExecuteResult := do
  let p ← prepare env user input
  match ← tryRegister p.besu p.request p.custodianWallet with
  | .error error => alreadyRegistered env p.besu input p.request error
  | .ok transactionHash =>
    completeMint env p.besu p.actor uuid input p.request p.owner p.custodian transactionHash

end Sampraan.Governance.Mint
