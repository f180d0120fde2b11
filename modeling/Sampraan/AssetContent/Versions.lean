import Sampraan.AssetContent.Access
import Sampraan.Library.Phases

/-!
`content.createVersion`: the number of a version is read in one statement and
stored in a later one, and the unique index on the asset and the number lets only
the next number in.
-/

namespace Sampraan.AssetContent

open Backend Library
open Auth (attempt attempt_obeys)
open Governance (Audits persistAnchorAudit)

variable (env : ContentEnvironment)

/-! ### The rows -/

def versionNumbers (w : World) (assetRowId : String) : List ℕ :=
  (w.assetContentVersions.filter (·.assetId == assetRowId)).map AssetContentVersionRow.versionNumber

def nextVersionNumber (w : World) (assetRowId : String) : ℕ :=
  (versionNumbers w assetRowId).max?.getD 0 + 1

def getNextAssetVersionNumber (assetRowId : String) : Promise ℕ :=
  if !env.databaseConfigured then pure 1
  else attempt fun w => (nextVersionNumber w assetRowId, w)

/-- The row breaks the primary key, or the unique index on the asset and the number. -/
def breaksKey (row : AssetContentVersionRow) (r : AssetContentVersionRow) : Bool :=
  r.id == row.id || (r.assetId == row.assetId && r.versionNumber == row.versionNumber)

def insertVersion (row : AssetContentVersionRow) : Promise Unit := do
  let inserted ← attempt fun w =>
    if w.assetContentVersions.any (breaksKey row) then (false, w)
    else (true, { w with assetContentVersions := w.assetContentVersions ++ [row] })
  if inserted then pure () else throw (.other "Duplicate entry")

def createAssetContentVersion (row : AssetContentVersionRow) :
    Promise (Option AssetContentVersionRow) :=
  if !env.databaseConfigured then pure none
  else do
    insertVersion row
    attempt fun w => (w.assetContentVersions.find? (·.id == row.id), w)

/-! ### The procedure -/

/-- `dataBase64` has been read from the request; the MIME type that the client claims is not
used. -/
structure CreateVersionInput where
  assetId : String
  filename : String
  clientMimeType : Option String
  dataBase64 : String
  changeNote : Option String
  deriving DecidableEq

/-- A call, with the random values that it draws. -/
structure CreateVersionCall where
  user : ContentUser
  input : CreateVersionInput
  random : ContentRandomness
  versionId : String

structure PublicVersion where
  id : String
  assetId : String
  versionNumber : ℕ
  filename : String
  originalFilename : String
  mimeType : String
  sizeBytes : ℕ
  contentHash : String
  storageProvider : String
  createdByIdentityId : String
  changeNote : Option String
  deriving DecidableEq

def toPublicVersion (row : AssetContentVersionRow) : PublicVersion where
  id := row.id
  assetId := row.assetId
  versionNumber := row.versionNumber
  filename := row.filename
  originalFilename := row.originalFilename
  mimeType := row.mimeType
  sizeBytes := row.sizeBytes
  contentHash := row.contentHash
  storageProvider := row.storageProvider
  createdByIdentityId := row.createdByIdentityId
  changeNote := row.changeNote

structure VersionCreated where
  version : PublicVersion
  anchor : AnchorResult
  deriving DecidableEq

def contentAudit (actor : ContentActor) (asset : AssetRow) (action : String) (decision : AuditDecision)
    (reason : String) : Promise Unit :=
  createAuditEvent env.toEnvironment
    { actorIdentityId := actor.identity.map IdentityRow.id
      action := action
      resourceType := "ASSET"
      resourceId := asset.assetId
      decision := decision
      reason := reason }

/-- The text of an error without its name. -/
def errorMessage : Error → String
  | .trpc _ message => message
  | .named _ message => message
  | .other message => message

def validateOrReject (authorized : AuthorizedContent) (input : CreateVersionInput) (decoded : Bytes) :
    Promise ValidatedUpload :=
  match validateUpload env
      { originalFilename := input.filename, clientMimeType := input.clientMimeType, data := decoded } with
  | .ok validated => pure validated
  | .error error =>
    if isContentValidationError error then do
      contentAudit env authorized.actor authorized.asset "ASSET_CONTENT_UPLOAD_REJECTED" .deny
        (errorMessage error)
      throw (.trpc .badRequest (errorMessage error))
    else throw error

/-- The deployed registry has no call for versions, so none is anchored. -/
def anchorAssetVersion (assetId : String) : Promise AnchorResult :=
  match env.besu with
  | none =>
    pure { outcome := .skipped, reason := some "Blockchain is not configured (MOCK mode)" }
  | some _ => do
    let result : AnchorResult :=
      { outcome := .skipped
        reason := some ("The deployed SampraanAssetRegistry has no version-reference method; version " ++
          "evidence is recorded in the application audit trail (content hash + audit event) until a " ++
          "version-aware contract upgrade") }
    persistAnchorAudit env.toEnvironment assetId result
    pure result

def versionRow (call : CreateVersionCall) (authorized : AuthorizedContent)
    (stored : StoredVersionMetadata) (versionNumber : ℕ) : AssetContentVersionRow where
  id := call.versionId
  assetId := authorized.asset.id
  versionNumber := versionNumber
  filename := stored.filename
  originalFilename := stored.originalFilename
  mimeType := stored.mimeType
  sizeBytes := stored.sizeBytes
  contentHash := stored.contentHash
  storageProvider := stored.storageProvider
  storageReference := stored.storageReference
  encryption := stored.encryption.toJson
  createdByIdentityId := (authorized.actor.identity.map IdentityRow.id).getD ""
  changeNote := call.input.changeNote

/-- The test of `/Duplicate entry/i`. -/
def mentionsDuplicate (error : Error) : Bool :=
  (toLowerCase (errorMessage error)).toList.tails.any fun rest =>
    "duplicate entry".toList.isPrefixOf rest

def persistFailed (authorized : AuthorizedContent) (error : Error) : Promise VersionCreated := do
  contentAudit env authorized.actor authorized.asset "ASSET_VERSION_PERSIST_FAILED" .deny
    s!"Content stored but the version row failed: {describeError error}"
  if mentionsDuplicate error then
    throw (.trpc .conflict "A version was just created for this asset — reload and retry")
  else throw (.trpc .internalServerError "Version could not be persisted")

def versionReason (row : AssetContentVersionRow) : String :=
  s!"Version {row.versionNumber} created ({row.filename}, {row.mimeType}, " ++
    s!"sha256 {sliceTo 12 row.contentHash}…)"

/-- `persistVersion` once it has read its row back. -/
def reportVersion (authorized : AuthorizedContent) (row : AssetContentVersionRow)
    (readBack : Option AssetContentVersionRow) : Promise VersionCreated :=
  match readBack with
  | none => throw (.other "Database unavailable")
  | some version => do
    let anchor ← anchorAssetVersion env authorized.asset.assetId
    contentAudit env authorized.actor authorized.asset "ASSET_VERSION_CREATED" .allow
      (versionReason row)
    pure { version := toPublicVersion version, anchor := anchor }

def persistVersion (authorized : AuthorizedContent) (row : AssetContentVersionRow) :
    Promise VersionCreated :=
  tryCatch
    (do
      let readBack ← createAssetContentVersion env row
      reportVersion env authorized row readBack)
    (persistFailed env authorized)

def storeVersion (call : CreateVersionCall) (authorized : AuthorizedContent)
    (validated : ValidatedUpload) : Promise VersionCreated := do
  let storage ← ofResult (resolveStorage env call.random.suffix)
  let stored ← encryptAndStore env storage call.random validated
  let versionNumber ← getNextAssetVersionNumber env authorized.asset.id
  persistVersion env authorized (versionRow call authorized stored versionNumber)

def createVersion (call : CreateVersionCall) : Promise VersionCreated := do
  let authorized ← authorizeContentOperation env.toEnvironment call.user call.input.assetId .edit
  let decoded := Base64.ofText call.input.dataBase64
  if decoded.length = 0 then throw (.trpc .badRequest "Upload payload is empty")
  else if env.storage.maxUploadBytes < decoded.length then
    throw (.trpc .payloadTooLarge (uploadLimitMessage env))
  else do
    let validated ← validateOrReject env authorized call.input decoded
    storeVersion env call authorized validated

/-- Calls of `createVersion` only, in a world that leaves the version rows alone. -/
def contentSystem : System CreateVersionCall World Error VersionCreated where
  body := createVersion env
  interfere s t := t.assetContentVersions = s.assetContentVersions

end Sampraan.AssetContent
