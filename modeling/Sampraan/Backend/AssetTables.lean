import Sampraan.Backend.IdentityTables

/-! The functions of `db.ts` on assets, transfer requests and disputes. -/

namespace Sampraan.Backend

open Library

variable (env : Environment)

def getAssetById (id : String) : Promise (Option AssetRow) :=
  if !env.databaseConfigured then pure none
  else Async.query fun w => w.assets.find? (·.id == id)

/-- `listAssets` and the first row with the business id. -/
def getAssetRowByBusinessId (businessId : String) : Promise (Option AssetRow) :=
  if !env.databaseConfigured then pure none
  else Async.query fun w => w.assets.reverse.find? (·.assetId == businessId)

def updateAssets (id : String) (f : AssetRow → AssetRow) (w : World) : World :=
  { w with assets := Table.update (·.id == id) f w.assets }

/-- The transaction of `applyCustodyTransfer`, rolled back when it fails. -/
def transferCustodyIn (assetRowId newCustodianIdentityId : String) (w : World) : World :=
  if w.databaseFails ∨ newCustodianIdentityId = "" then w
  else updateAssets assetRowId (fun r => { r with custodianIdentityId := newCustodianIdentityId }) w

/-- Its callers catch the error of a failed transaction and go on, as they do after success. -/
def applyCustodyTransfer (assetRowId newCustodianIdentityId : String) : Promise Unit :=
  if !env.databaseConfigured then pure ()
  else do
    Async.statement fun w => ((), transferCustodyIn assetRowId newCustodianIdentityId w)
    Async.query fun _ => ()

/-! ### Disputes -/

def listOpenDisputesForAsset (assetRowId : String) : Promise (List AssetDisputeRow) :=
  if !env.databaseConfigured then pure []
  else Async.query fun w => w.assetDisputes.filter fun r =>
    r.assetId == assetRowId && (r.status == .opened || r.status == .upheld)

def hasOpenDispute (assetRowId : String) : Promise Bool := do
  let rows ← listOpenDisputesForAsset env assetRowId
  pure (rows.length > 0)

structure CreateAssetDispute where
  assetId : String
  raisedByIdentityId : String
  evidenceHash : String
  reason : String

def assetDisputeRow (id : String) (input : CreateAssetDispute) : AssetDisputeRow where
  id := id
  assetId := input.assetId
  status := .opened
  raisedByIdentityId := input.raisedByIdentityId
  evidenceHash := input.evidenceHash
  reason := input.reason

/-- The declared lengths of the columns of `asset_disputes`. -/
def AssetDisputeRow.fits (row : AssetDisputeRow) : Bool :=
  row.id.length ≤ 36 && row.assetId.length ≤ 36 && row.raisedByIdentityId.length ≤ 36 &&
    row.evidenceHash.length ≤ 64 && row.reason.length ≤ 300

def insertAssetDispute (row : AssetDisputeRow) (w : World) : Option World :=
  if !row.fits ∨ w.assetDisputes.any (·.id == row.id) then none
  else some { w with assetDisputes := w.assetDisputes ++ [row] }

/-- The id is a fresh `crypto.randomUUID()`. -/
def createAssetDispute (id : String) (input : CreateAssetDispute) :
    Promise (Option AssetDisputeRow) :=
  if !env.databaseConfigured then pure none
  else do
    insert (insertAssetDispute (assetDisputeRow id input))
    Async.query fun w => w.assetDisputes.find? (·.id == id)

/-- The rows of one status, latest first. -/
def listAssetDisputes (status : DisputeStatus) : Promise (List AssetDisputeRow) :=
  if !env.databaseConfigured then pure []
  else Async.query fun w => ((w.assetDisputes.filter (·.status == status)).reverse).take 100

structure ResolveAssetDispute where
  id : String
  status : DisputeStatus
  resolvedByIdentityId : String
  resolutionReason : String

def resolveDisputeIn (input : ResolveAssetDispute) (w : World) : World :=
  { w with
    assetDisputes := Table.update (fun r => r.id == input.id && r.status == .opened)
      (fun r =>
        { r with
          status := input.status
          resolvedByIdentityId := some input.resolvedByIdentityId
          resolutionReason := some input.resolutionReason })
      w.assetDisputes }

def resolveAssetDispute (input : ResolveAssetDispute) : Promise (Option AssetDisputeRow) :=
  if !env.databaseConfigured then pure none
  else do
    let affected ← Async.statement fun w =>
      (Table.affectedRows (fun r : AssetDisputeRow => r.id == input.id && r.status == .opened)
        w.assetDisputes, resolveDisputeIn input w)
    if affected = 0 then pure none
    else Async.query fun w => w.assetDisputes.find? (·.id == input.id)

/-! ### Transfer requests -/

structure CreateAssetTransferRequest where
  assetId : String
  tokenId : Option String
  fromIdentityId : String
  toIdentityId : String
  requestedByIdentityId : String

def assetTransferRequestRow (id : String) (input : CreateAssetTransferRequest) :
    AssetTransferRequestRow where
  id := id
  assetId := input.assetId
  tokenId := input.tokenId
  fromIdentityId := input.fromIdentityId
  toIdentityId := input.toIdentityId
  requestedByIdentityId := input.requestedByIdentityId
  status := .pending
  approverIdentityId := none
  decisionReason := none
  transactionHash := none

def insertAssetTransferRequest (row : AssetTransferRequestRow) (w : World) : Option World :=
  if w.assetTransferRequests.any (·.id == row.id) then none
  else some { w with assetTransferRequests := w.assetTransferRequests ++ [row] }

def selectAssetTransferRequest (id : String) : Promise (Option AssetTransferRequestRow) :=
  Async.query fun w => w.assetTransferRequests.find? (·.id == id)

def createAssetTransferRequest (id : String) (input : CreateAssetTransferRequest) :
    Promise (Option AssetTransferRequestRow) :=
  if !env.databaseConfigured then pure none
  else do
    insert (insertAssetTransferRequest (assetTransferRequestRow id input))
    selectAssetTransferRequest id

def getAssetTransferRequest (id : String) : Promise (Option AssetTransferRequestRow) :=
  if !env.databaseConfigured then pure none else selectAssetTransferRequest id

def updateTransferRequests (id : String) (patch : AssetTransferRequestRow → AssetTransferRequestRow)
    (w : World) : World :=
  { w with assetTransferRequests := Table.update (·.id == id) patch w.assetTransferRequests }

def updateAssetTransferRequest (id : String)
    (patch : AssetTransferRequestRow → AssetTransferRequestRow) :
    Promise (Option AssetTransferRequestRow) :=
  if !env.databaseConfigured then pure none
  else do
    Async.statement fun w => ((), updateTransferRequests id patch w)
    selectAssetTransferRequest id

end Sampraan.Backend
