import Sampraan.Backend.AssetTables
import Sampraan.Backend.Besu
import Sampraan.Governance.Actors
import Sampraan.Library.Decimal

/-! `auditor.raiseDispute` and `auditor.resolveDispute` of `governance.router.ts`. -/

namespace Sampraan.Governance.Disputes

open Backend Library CryptoAssurance

variable (env : Environment)

/-! ### Inputs -/

def isHexDigit (c : Char) : Bool :=
  c.isDigit || (decide ('a' ≤ c) && decide (c ≤ 'f')) || (decide ('A' ≤ c) && decide (c ≤ 'F'))

/-- `/^0x[0-9a-fA-F]{64}$/` -/
structure Hash32 where
  text : String
  hasPrefix : text.toList.take 2 = ['0', 'x']
  length : text.length = 66
  digits : (text.toList.drop 2).all isHexDigit = true

structure RaiseDisputeInput where
  assetId : String
  evidenceHash : Option Hash32
  reason : String

structure ResolveDisputeInput where
  disputeId : String
  nonempty : disputeId ≠ ""
  uphold : Bool
  reason : String

/-! ### The procedures -/

def keccakOf (value : String) : String := env.ethers.keccak256 (env.ethers.toUtf8Bytes value)

def RaiseDisputeInput.hash (input : RaiseDisputeInput) : String :=
  match input.evidenceHash with
  | some hash => hash.text
  | none => keccakOf env input.reason

def requireAssetTokenByBusinessId (businessId : String) : Promise ℕ :=
  match env.besu with
  | none => throw governanceUnavailable
  | some besu => do
    match ← Besu.getAsset besu businessId with
    | none => throw (.trpc .notFound s!"Asset {businessId} is not registered on-chain")
    | some record => pure record.tokenId

/-- The row of the read model, bound to the id of the asset's row when there is one. -/
def recordDispute (uuid : String) (actor : Actor) (input : RaiseDisputeInput) : Promise Unit := do
  match ← getAssetRowByBusinessId env input.assetId with
  | none => pure ()
  | some assetRow => do
    let _ ← createAssetDispute env uuid
      { assetId := assetRow.id
        raisedByIdentityId := actor.identity.id
        evidenceHash := input.hash env
        reason := input.reason }

structure RaisedDispute where
  transactionHash : String
  disputeId : String
  deriving DecidableEq

def raiseDispute (user : Option ℕ) (uuid : String) (input : RaiseDisputeInput) :
    Promise RaisedDispute := do
  let actor ← requireActor env user
  if !hasRole actor "AUDITOR" then
    throw (.trpc .forbidden "Disputes require the AUDITOR role")
  else
    match env.besu with
    | none => throw governanceUnavailable
    | some besu => do
      let _ ← requireAssetTokenByBusinessId env input.assetId
      let (transactionHash, disputeId) ←
        Besu.auditorRaiseDispute besu input.assetId (input.hash env)
      recordDispute env uuid actor input
      audit env actor.identity.id "DISPUTE_RAISED" "ASSET" input.assetId .allow input.reason
      pure { transactionHash := transactionHash, disputeId := toString disputeId }

/-- The row of the read model follows when its id is the one of the input. -/
def mirrorResolution (actor : Actor) (input : ResolveDisputeInput) : Promise Unit := do
  let disputes ← listAssetDisputes env .opened
  match disputes.find? (·.id == input.disputeId) with
  | none => pure ()
  | some dispute => do
    let _ ← resolveAssetDispute env
      { id := dispute.id
        status := if input.uphold then .upheld else .rejected
        resolvedByIdentityId := actor.identity.id
        resolutionReason := input.reason }

def resolveDispute (user : Option ℕ) (input : ResolveDisputeInput) : Promise String := do
  let actor ← requireActor env user
  assertAdmin actor "Dispute resolution"
  match env.besu with
  | none => throw governanceUnavailable
  | some besu =>
    match Decimal.bigInt? input.disputeId with
    | none => throw (.other s!"Cannot convert {input.disputeId} to a BigInt")
    | some disputeId => do
      let transactionHash ← Besu.resolveDispute besu disputeId input.uphold
      mirrorResolution env actor input
      audit env actor.identity.id "DISPUTE_RESOLVED" "ASSET" input.disputeId .allow input.reason
      pure transactionHash

end Sampraan.Governance.Disputes
