import Sampraan.Backend.AssetTables

/-!
The functions of `db.ts` that decide on a transfer: an identity's permissions,
the latest audit events and the approvals of sensitive assets.
-/

namespace Sampraan.Backend

open Library

variable (env : Environment)

structure RolesAndPermissions where
  roles : List String
  permissions : List String
  deriving DecidableEq

def getIdentityRolesAndPermissions (identityId : String) : Promise RolesAndPermissions :=
  if !env.databaseConfigured then pure { roles := [], permissions := [] }
  else do
    let roles ← getIdentityRoles env identityId
    if roles = [] then pure { roles := [], permissions := [] }
    else do
      let permissions ← Async.query fun w =>
        ((w.rolePermissions.filter (roles.contains ·.roleName)).map
          RolePermissionRow.permissionKey).eraseDups
      pure { roles := roles, permissions := permissions }

/-- The newest first; the rows stand in the order of their insertion. -/
def listAuditEvents (limit : ℕ) : Promise (List AuditEventRow) :=
  if !env.databaseConfigured then pure []
  else Async.query fun w => w.auditEvents.reverse.take limit

/-- The custody transaction of `applyCustodyTransfer`, and whether it was committed. -/
def commitCustodyTransfer (assetRowId newCustodianIdentityId : String) : Promise Bool :=
  if !env.databaseConfigured then pure false
  else do
    let committed ← Async.statement fun w =>
      (!w.databaseFails, transferCustodyIn assetRowId newCustodianIdentityId w)
    if !committed then pure false
    else Async.query fun w => !w.databaseFails && w.assets.any (·.id == assetRowId)

/-! ### Approvals -/

structure ApprovalQuery where
  assetId : String
  requesterIdentityId : String
  action : String

def isActiveApproval (input : ApprovalQuery) (r : AssetApprovalRow) : Bool :=
  r.assetId == input.assetId && r.requesterIdentityId == input.requesterIdentityId &&
    r.action == input.action && (r.status == .pending || r.status == .approved)

def getActiveAssetApproval (input : ApprovalQuery) : Promise (Option AssetApprovalRow) :=
  if !env.databaseConfigured then pure none
  else Async.query fun w =>
    Table.newest AssetApprovalRow.createdAt (isActiveApproval input) w.assetApprovals

def executedApproval (r : AssetApprovalRow) : AssetApprovalRow := { r with status := .executed }

def markApprovalIn (approvalId : String) (w : World) : World :=
  if w.databaseFails then w
  else
    { w with
      assetApprovals := Table.update (·.id == approvalId) executedApproval w.assetApprovals }

/-- Its caller goes on after a failure of either statement. -/
def markAssetApprovalExecuted (approvalId : String) : Promise Unit :=
  if !env.databaseConfigured then pure ()
  else do
    Async.statement fun w => ((), markApprovalIn approvalId w)
    Async.query fun _ => ()

end Sampraan.Backend
