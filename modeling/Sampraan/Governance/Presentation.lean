import Sampraan.Backend.AssetTables
import Sampraan.Governance.Actors

/-! The ownership presentations of `governance.router.ts`. -/

namespace Sampraan.Governance.Presentation

open Backend Library
open CryptoAssurance (Actor)

variable (env : Environment)

def presentationValidityMs : ℤ := 10 * 60000

/-! ### The message -/

structure PresentationFields where
  did : String
  assetId : String
  verifierDid : String
  purpose : String
  nonce : String
  issuedAt : Time
  expiresAt : Time
  keyIdentifier : String

def presentationMessage (fields : PresentationFields) : String :=
  "\n".intercalate
    ["SAMPRAAN Ownership Presentation",
      s!"did: {fields.did}",
      s!"asset: {fields.assetId}",
      s!"verifier: {fields.verifierDid}",
      s!"purpose: {fields.purpose}",
      s!"nonce: {fields.nonce}",
      s!"issued-at: {toISOString fields.issuedAt}",
      s!"expires: {toISOString fields.expiresAt}",
      s!"keyId: {fields.keyIdentifier}"]

/-! ### Statements on `ownership_presentations` -/

def insertPresentation (row : OwnershipPresentationRow) (w : World) : Option World :=
  if w.ownershipPresentations.any fun r => r.id == row.id || r.nonce == row.nonce then none
  else some { w with ownershipPresentations := w.ownershipPresentations ++ [row] }

def createOwnershipPresentationRow (row : OwnershipPresentationRow) :
    Promise (Option OwnershipPresentationRow) :=
  if !env.databaseConfigured then pure none
  else do
    insert (insertPresentation row)
    Async.query fun w => w.ownershipPresentations.find? (·.id == row.id)

def consumable (nonce : String) (now : Time) (row : OwnershipPresentationRow) : Bool :=
  row.nonce == nonce && row.consumedAt.isNone && decide (now < row.expiresAt)

def consumePresentationIn (nonce : String) (w : World) : World :=
  let rows := Table.update (consumable nonce w.now)
    (fun row => { row with consumedAt := some w.now }) w.ownershipPresentations
  { w with ownershipPresentations := rows }

def consumeOwnershipPresentationRow (nonce : String) : Promise (Option OwnershipPresentationRow) :=
  if !env.databaseConfigured then pure none
  else do
    let affectedRows ← Async.statement fun w =>
      (Table.affectedRows (consumable nonce w.now) w.ownershipPresentations,
        consumePresentationIn nonce w)
    if affectedRows = 0 then pure none
    else Async.query fun w => w.ownershipPresentations.find? (·.nonce == nonce)

/-! ### createOwnershipPresentation -/

structure PresentationInput where
  assetId : String
  verifierDid : String
  purpose : String
  nonce : String
  signature : String
  deriving DecidableEq

structure PresentationReply where
  presentationId : Option String
  message : String
  expiresAt : Time
  deriving DecidableEq

/-- The key that the record of the DID names. -/
def storedKey (did : String) (w : World) : String :=
  ((w.didRecords.find? (·.did == did)).bind DidRecordRow.keyIdentifier).getD "key-1-current"

def presentationKey (did : String) : Promise String :=
  if !env.databaseConfigured then pure "key-1-current" else Async.query (storedKey did)

def operatorKey : String := (env.besu.bind BesuConfig.privateKey).getD ""

def assertSigned (did message signature : String) : Promise Unit :=
  if operatorKey env = "" then throw governanceUnavailable
  else match env.ethers.verifyMessage message signature with
  | none => throw (.trpc .unprocessableContent "Presentation signature is malformed")
  | some recovered =>
    if toLowerCase recovered ≠ toLowerCase (deriveIdentityWallet env (operatorKey env) did) then
      throw (.trpc .unprocessableContent
        "Presentation signature does not verify against this DID's key")
    else pure ()

def presentedFields (actor : Actor) (asset : AssetRow) (input : PresentationInput)
    (issuedAt expiresAt : Time) (keyIdentifier : String) : PresentationFields where
  did := actor.identity.did
  assetId := asset.assetId
  verifierDid := input.verifierDid
  purpose := input.purpose
  nonce := input.nonce
  issuedAt := issuedAt
  expiresAt := expiresAt
  keyIdentifier := keyIdentifier

def presentationRow (uuid : String) (actor : Actor) (asset : AssetRow) (input : PresentationInput)
    (fields : PresentationFields) : OwnershipPresentationRow where
  id := uuid
  subjectIdentityId := actor.identity.id
  assetId := asset.id
  verifierDid := input.verifierDid
  purpose := input.purpose
  nonce := input.nonce
  signature := input.signature
  keyIdentifier := fields.keyIdentifier
  message := presentationMessage fields
  expiresAt := fields.expiresAt
  consumedAt := none

/-- What follows once the caller is known to own or hold the asset. -/
def presentAsset (uuid : String) (actor : Actor) (asset : AssetRow) (input : PresentationInput) :
    Promise PresentationReply := do
  let issuedAt ← Async.query World.now
  let expiresAt ← Async.query fun w => w.now + presentationValidityMs
  let keyIdentifier ← presentationKey env actor.identity.did
  let fields := presentedFields actor asset input issuedAt expiresAt keyIdentifier
  assertSigned env actor.identity.did (presentationMessage fields) input.signature
  let presentation ← createOwnershipPresentationRow env (presentationRow uuid actor asset input fields)
  audit env actor.identity.id "OWNERSHIP_PRESENTATION_CREATED" "ASSET" asset.assetId .allow
    s!"Presentation for {input.verifierDid} ({input.purpose})"
  pure
    { presentationId := presentation.map OwnershipPresentationRow.id
      message := presentationMessage fields
      expiresAt := expiresAt }

/-- `uuid` is what `crypto.randomUUID()` gives. -/
def createOwnershipPresentation (user : Option ℕ) (uuid : String) (input : PresentationInput) :
    Promise PresentationReply := do
  let actor ← requireActor env user
  match ← getAssetById env input.assetId with
  | none => throw (.trpc .notFound "Asset not found")
  | some asset =>
    if asset.custodianIdentityId ≠ actor.identity.id ∧ asset.ownerIdentityId ≠ actor.identity.id then
      throw (.trpc .forbidden "Only the owner/custodian can present ownership")
    else presentAsset env uuid actor asset input

/-! ### consumeOwnershipPresentation -/

structure ConsumedPresentation where
  assetBusinessId : Option String
  purpose : String
  keyIdentifier : String
  consumedAt : Option Time
  deriving DecidableEq

def consumeOwnershipPresentation (user : Option ℕ) (nonce : String) : Promise ConsumedPresentation := do
  let actor ← requireActor env user
  match ← consumeOwnershipPresentationRow env nonce with
  | none => throw (.trpc .notFound "Presentation not found, expired, or already consumed")
  | some presentation =>
    -- the nonce is burnt before the audience is looked at
    if presentation.verifierDid ≠ actor.identity.did then
      throw (.trpc .forbidden "You are not the audience of this presentation")
    else do
      let asset ← getAssetById env presentation.assetId
      audit env actor.identity.id "OWNERSHIP_PRESENTATION_CONSUMED" "ASSET"
        ((asset.map AssetRow.assetId).getD presentation.assetId) .allow
        s!"Presentation consumed by {actor.identity.did}"
      pure
        { assetBusinessId := asset.map AssetRow.assetId
          purpose := presentation.purpose
          keyIdentifier := presentation.keyIdentifier
          consumedAt := presentation.consumedAt }

end Sampraan.Governance.Presentation
