import Sampraan.Backend.Environment
import Sampraan.Library.Table

/-! The functions of `db.ts` that write the identities and their roles. -/

namespace Sampraan.Backend

open Library

variable (env : Environment)

def getIdentityById (id : String) : Promise (Option IdentityRow) :=
  if !env.databaseConfigured then pure none else selectIdentityById id

def insertIdentity (row : IdentityRow) (w : World) : Option World :=
  if w.identities.any fun r => r.id == row.id || r.did == row.did then none
  else some { w with identities := w.identities ++ [row] }

structure InsertIdentity where
  displayName : String
  organization : String
  did : String
  status : IdentityStatus
  deriving DecidableEq

/-- The row that an insert gives, with the defaults of its other columns. -/
def identityRow (id : String) (input : InsertIdentity) : IdentityRow where
  id := id
  linkedUserId := none
  displayName := input.displayName
  status := input.status
  did := input.did
  lifecycleState := .verified
  organization := input.organization
  scope := none

def createIdentity (id : String) (input : InsertIdentity) : Promise (Option IdentityRow) :=
  if !env.databaseConfigured then throw (.other "Database is not configured")
  else do
    insert (insertIdentity (identityRow id input))
    selectIdentityById id

def insertDidRecord (row : DidRecordRow) (w : World) : Option World :=
  if w.didRecords.any (·.did == row.did) then none
  else some { w with didRecords := w.didRecords ++ [row] }

def createDidRecord (identityId did : String) (status : DidStatus) : Promise Unit :=
  if !env.databaseConfigured then throw (.other "Database is not configured")
  else do
    insert (insertDidRecord
      { identityId := identityId
        did := did
        status := status
        keyStatus := .active
        keyIdentifier := none })
    Async.query fun _ => ()

def updateIdentities (id : String) (f : IdentityRow → IdentityRow) (w : World) : World :=
  { w with identities := Table.update (·.id == id) f w.identities }

def updateDidStatus (did : String) (status : DidStatus) (w : World) : World :=
  { w with didRecords := Table.update (·.did == did) (fun r => { r with status := status }) w.didRecords }

/-- What follows the update of an identity's row in both functions below. -/
def syncDidRecord (identityId : String) (status : DidStatus) : Promise (Option IdentityRow) := do
  match ← selectIdentityById identityId with
  | none => pure none
  | some identity =>
    if identity.did ≠ "" then do
      Async.statement fun w => ((), updateDidStatus identity.did status w)
      pure (some identity)
    else pure (some identity)

def setStatusIn (identityId : String) (status : IdentityStatus) : World → World :=
  updateIdentities identityId fun r => { r with status := status }

def applyIdentityStatusChange (identityId : String) (status : IdentityStatus) :
    Promise (Option IdentityRow) :=
  if !env.databaseConfigured then pure none
  else do
    Async.statement fun w => ((), setStatusIn identityId status w)
    syncDidRecord identityId (if status = .active then .active else .revoked)

def statusOf : LifecycleState → IdentityStatus
  | .verified => .active
  | .suspended => .suspended
  | .deactivated => .revoked
  | .pending => .suspended

def setLifecycleIn (identityId : String) (state : LifecycleState) : World → World :=
  updateIdentities identityId fun r => { r with lifecycleState := state, status := statusOf state }

def updateIdentityLifecycle (identityId : String) (state : LifecycleState) :
    Promise (Option IdentityRow) :=
  if !env.databaseConfigured then pure none
  else do
    Async.statement fun w => ((), setLifecycleIn identityId state w)
    syncDidRecord identityId (if state = .verified then .active else .revoked)

def setScopeIn (identityId : String) (scope : Option String) : World → World :=
  updateIdentities identityId fun r => { r with scope := scope }

def setIdentityScope (identityId : String) (scope : Option String) : Promise Unit :=
  if !env.databaseConfigured then pure ()
  else Async.statement fun w => ((), setScopeIn identityId scope w)

/-! ### Roles -/

inductive RoleName where
  | admin
  | manager
  | auditor
  | user
  deriving DecidableEq

def RoleName.label : RoleName → String
  | .admin => "ADMIN"
  | .manager => "MANAGER"
  | .auditor => "AUDITOR"
  | .user => "USER"

def setRolesIn (identityId : String) (names : List String) (w : World) : World :=
  { w with
    identityRoles := w.identityRoles.filter (fun r => !(r.identityId == identityId)) ++
      names.map fun name => { identityId := identityId, roleName := name } }

/-- The role names come from an enumeration of trimmed capitals, so `wanted` is their set. -/
def applyIdentityRoles (identityId : String) (roleNames : List RoleName) :
    Promise (Option (List String)) :=
  if !env.databaseConfigured then pure none
  else do
    let wanted := (roleNames.map RoleName.label).eraseDups
    let found ← Async.query fun w => w.roles.filter wanted.contains
    let missing := wanted.filter fun name => !found.contains name
    if missing ≠ [] then throw (.other (s!"Unknown role(s): " ++ ", ".intercalate missing))
    else do
      Async.statement fun w => ((), setRolesIn identityId found w)
      pure (some found)

/-- The join of `identity_roles` with the ACTIVE identities, for the ADMIN role. -/
def activeAdmins (w : World) : List IdentityRoleRow :=
  w.identityRoles.filter fun r => r.roleName == "ADMIN" &&
    w.identities.any fun i => i.id == r.identityId && i.status == .active

def countActiveAdminIdentities : Promise ℕ :=
  if !env.databaseConfigured then pure 0
  else do
    let adminRole ← Async.query fun w => w.roles.contains "ADMIN"
    if !adminRole then pure 0
    else Async.query fun w => (activeAdmins w).length

end Sampraan.Backend
