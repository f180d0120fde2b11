import Sampraan.Backend.AssetTables

/-! The functions of `db.ts` on mint requests and on the asset rows that a mint creates. -/

namespace Sampraan.Backend

open Library

variable (env : Environment)

/-! ### Mint requests -/

structure CreateMintRequest where
  assetId : String
  name : String
  type : String
  classification : AssetClassification
  description : Option String
  integrityHash : Option String
  ownerIdentityId : String
  custodianIdentityId : String
  requestedByIdentityId : String
  requesterScope : Option String

def mintRequestRow (id : String) (input : CreateMintRequest) : MintRequestRow where
  id := id
  assetId := input.assetId
  name := input.name
  type := input.type
  classification := input.classification
  description := input.description
  integrityHash := input.integrityHash
  ownerIdentityId := input.ownerIdentityId
  custodianIdentityId := input.custodianIdentityId
  requestedByIdentityId := input.requestedByIdentityId
  requesterScope := input.requesterScope
  status := .pending
  decidedByIdentityId := none
  decisionReason := none
  tokenId := none
  transactionHash := none

def insertMintRequest (row : MintRequestRow) (w : World) : Option World :=
  if w.mintRequests.any fun r => r.id == row.id || r.assetId == row.assetId then none
  else some { w with mintRequests := w.mintRequests ++ [row] }

def selectMintRequest (id : String) : Promise (Option MintRequestRow) :=
  Async.query fun w => w.mintRequests.find? (·.id == id)

def createMintRequest (id : String) (input : CreateMintRequest) : Promise (Option MintRequestRow) :=
  if !env.databaseConfigured then pure none
  else do
    insert (insertMintRequest (mintRequestRow id input))
    selectMintRequest id

def getMintRequest (id : String) : Promise (Option MintRequestRow) :=
  if !env.databaseConfigured then pure none else selectMintRequest id

/-- The newest hundred; the rows stand in the order of their insertion. -/
def listMintRequests : Promise (List MintRequestRow) :=
  if !env.databaseConfigured then pure []
  else Async.query fun w => w.mintRequests.reverse.take 100

inductive MintDecision where
  | approved
  | rejected
  deriving DecidableEq

def MintDecision.status : MintDecision → MintRequestStatus
  | .approved => .approved
  | .rejected => .rejected

structure DecideMintRequest where
  id : String
  status : MintDecision
  decidedByIdentityId : String
  decisionReason : String

def undecided (id : String) (r : MintRequestRow) : Bool := r.id == id && r.status == .pending

def decideIn (input : DecideMintRequest) (w : World) : World :=
  { w with
    mintRequests := Table.update (undecided input.id)
      (fun r =>
        { r with
          status := input.status.status
          decidedByIdentityId := some input.decidedByIdentityId
          decisionReason := some input.decisionReason })
      w.mintRequests }

def decideMintRequest (input : DecideMintRequest) : Promise (Option MintRequestRow) :=
  if !env.databaseConfigured then pure none
  else do
    let affectedRows ← Async.statement fun w =>
      (Table.affectedRows (undecided input.id) w.mintRequests, decideIn input w)
    if affectedRows = 0 then pure none else selectMintRequest input.id

def markMintIn (id tokenId transactionHash : String) (w : World) : World :=
  { w with
    mintRequests := Table.update (·.id == id)
      (fun r =>
        { r with
          status := .executed
          tokenId := some tokenId
          transactionHash := some transactionHash })
      w.mintRequests }

def markMintRequestExecuted (id tokenId transactionHash : String) :
    Promise (Option MintRequestRow) :=
  if !env.databaseConfigured then pure none
  else do
    Async.statement fun w => ((), markMintIn id tokenId transactionHash w)
    selectMintRequest id

/-! ### Asset rows -/

def insertAsset (row : AssetRow) (w : World) : Option World :=
  if w.databaseFails ∨ (w.assets.any fun r => r.id == row.id || r.assetId == row.assetId) then none
  else some { w with assets := w.assets ++ [row] }

/-- Its caller goes on after a failure of either statement. -/
def createAsset (row : AssetRow) : Promise (Option AssetRow) :=
  if !env.databaseConfigured then throw (.other "Database is not configured")
  else do
    insert (insertAsset row)
    match ← Async.query fun w => (w.databaseFails, w.assets.find? (·.id == row.id)) with
    | (true, _) => throw (.other "Failed query")
    | (false, created) => pure created

def setTokenIn (assetRowId tokenId : String) : World → World :=
  updateAssets assetRowId fun r => { r with tokenId := some tokenId }

def setAssetTokenId (assetRowId tokenId : String) : Promise Unit :=
  if !env.databaseConfigured then pure ()
  else Async.statement fun w => ((), setTokenIn assetRowId tokenId w)

end Sampraan.Backend
