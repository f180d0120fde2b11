import Sampraan.Blockchain.SubmitQueue
import Sampraan.Library.Table

/-! The grants of access to an asset, as `db.ts` issues and revokes them. -/

namespace Sampraan.AssetContent

open Backend Library
open Blockchain.SubmitQueue (includes)

variable (env : Environment)

/-! ### Rows -/

def permissionLabel : GrantPermission → String
  | .view => "VIEW"
  | .edit => "EDIT"

/-- `reason` tells `undefined` from `null`. -/
structure GrantInput where
  assetId : String
  granteeIdentityId : String
  permission : GrantPermission
  grantedByIdentityId : String
  reason : Option (Option String)
  deriving DecidableEq

def grantRow (uuid : String) (input : GrantInput) : AssetAccessGrantRow where
  id := uuid
  assetId := input.assetId
  granteeIdentityId := input.granteeIdentityId
  permission := input.permission
  grantedByIdentityId := input.grantedByIdentityId
  reason := input.reason.getD none
  revokedAt := none

/-- What the UNIQUE index is on. -/
def grantKey (row : AssetAccessGrantRow) : String × String × GrantPermission :=
  (row.assetId, row.granteeIdentityId, row.permission)

def GrantInput.key (input : GrantInput) : String × String × GrantPermission :=
  (input.assetId, input.granteeIdentityId, input.permission)

def sameGrant (input : GrantInput) (row : AssetAccessGrantRow) : Bool :=
  row.assetId == input.assetId && row.granteeIdentityId == input.granteeIdentityId &&
    row.permission == input.permission

/-! ### Statements -/

def insertGrant (row : AssetAccessGrantRow) (w : World) : Option World :=
  if w.assetAccessGrants.any fun r => r.id == row.id || grantKey r == grantKey row then none
  else some { w with assetAccessGrants := w.assetAccessGrants ++ [row] }

def revived (input : GrantInput) (row : AssetAccessGrantRow) : AssetAccessGrantRow :=
  { row with
    revokedAt := none
    grantedByIdentityId := input.grantedByIdentityId
    reason := input.reason.getD row.reason }

def reviveGrantIn (revivedId : String) (input : GrantInput) (w : World) : World :=
  let rows := Table.update (fun row => row.id == revivedId && row.revokedAt.isSome) (revived input)
    w.assetAccessGrants
  { w with assetAccessGrants := rows }

def isLiveGrant (grantId : String) (row : AssetAccessGrantRow) : Bool :=
  row.id == grantId && row.revokedAt.isNone

def revokeGrantIn (grantId : String) (w : World) : World :=
  let rows := Table.update (isLiveGrant grantId) (fun row => { row with revokedAt := some w.now })
    w.assetAccessGrants
  { w with assetAccessGrants := rows }

/-! ### createAssetAccessGrant -/

def messageOf : Error → String
  | .trpc _ message => message
  | .named _ message => message
  | .other message => message

def isDuplicateEntryError (error : Error) : Bool :=
  includes (toLowerCase (messageOf error)) "duplicate entry" ||
    includes (toLowerCase (messageOf error)) "er_dup_entry"

def duplicateActiveGrant (permission : GrantPermission) : Error :=
  .other (s!"DUPLICATE_ACTIVE_GRANT: {permissionLabel permission} is already granted to this " ++
    "identity on this asset")

/-- What the insert is rejected with. -/
def insertionFailure (row : AssetAccessGrantRow) : Promise (Option Error) :=
  (do Backend.insert (insertGrant row)
      pure none : Promise (Option Error)).recover fun error => pure (some error)

/-- The handler of the failed insert. -/
def reissueGrant (input : GrantInput) (error : Error) : Promise (Option AssetAccessGrantRow) := do
  match ← Async.query fun w => w.assetAccessGrants.find? (sameGrant input) with
  | none => throw error
  | some row =>
    if row.revokedAt.isNone then throw (duplicateActiveGrant input.permission)
    else do
      -- the rows that the update affects are not counted
      Async.statement fun w => ((), reviveGrantIn row.id input w)
      Async.query fun w => w.assetAccessGrants.find? (·.id == row.id)

/-- `uuid` is what `crypto.randomUUID()` gives. -/
def createAssetAccessGrant (uuid : String) (input : GrantInput) :
    Promise (Option AssetAccessGrantRow) :=
  if !env.databaseConfigured then pure none
  else do
    match ← insertionFailure (grantRow uuid input) with
    | none => Async.query fun w => w.assetAccessGrants.find? (·.id == uuid)
    | some error =>
      if !isDuplicateEntryError error then throw error else reissueGrant input error

/-! ### revokeAssetAccessGrant -/

def revokeAssetAccessGrant (grantId : String) : Promise Bool :=
  if !env.databaseConfigured then pure false
  else do
    let affectedRows ← Async.statement fun w =>
      (Table.affectedRows (isLiveGrant grantId) w.assetAccessGrants, revokeGrantIn grantId w)
    pure (decide (0 < affectedRows))

/-! ### The router -/

/-- What the procedure `grant` makes of a rejection. -/
def grantFailure (permission : GrantPermission) (error : Error) : Error :=
  if includes (messageOf error) "DUPLICATE_ACTIVE_GRANT" then
    .trpc .conflict (s!"{permissionLabel permission} access is already granted to this identity on " ++
      "this asset. Revoke the active grant before re-issuing it.")
  else error

theorem sameGrant_eq_true {input : GrantInput} {row : AssetAccessGrantRow} :
    sameGrant input row = true ↔ grantKey row = input.key := by
  simp [sameGrant, grantKey, GrantInput.key, and_assoc]

theorem insertGrant_eq_some {row : AssetAccessGrantRow} {s t : World} :
    insertGrant row s = some t ↔
      (∀ r ∈ s.assetAccessGrants, r.id ≠ row.id ∧ grantKey r ≠ grantKey row) ∧
        t = { s with assetAccessGrants := s.assetAccessGrants ++ [row] } := by
  simp only [insertGrant, Option.ite_none_left_eq_some, Option.some.injEq, List.any_eq_true,
    Bool.or_eq_true, beq_iff_eq, not_exists, not_and, not_or]
  exact and_congr_right fun _ => eq_comm

theorem grantFailure_duplicateActiveGrant (permission : GrantPermission) :
    ∃ message, grantFailure permission (duplicateActiveGrant permission) = .trpc .conflict message := by
  refine ⟨_, if_pos ?_⟩
  cases permission <;> decide

end Sampraan.AssetContent
