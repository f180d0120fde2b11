import Sampraan.Governance.Lifecycle

/-! The administrative procedures of the identities router in `routers.ts`. -/

namespace Sampraan.Identities

open Backend Library

variable (env : Environment)

inductive UserRole where
  | user
  | admin
  deriving DecidableEq

structure SessionUser where
  id : ℕ
  role : UserRole
  deriving DecidableEq

def notAdminErrMsg : String := "You do not have required permission (10002)"

def adminProcedure {α : Type} (user : Option SessionUser) (procedure : SessionUser → Promise α) :
    Promise α :=
  match user with
  | some user =>
    if user.role = .admin then procedure user else throw (.trpc .forbidden notAdminErrMsg)
  | none => throw (.trpc .forbidden notAdminErrMsg)

def notFound : Error := .trpc .notFound "Identity not found"

/-- `createAuditEvent` for a resource of type IDENTITY. -/
def auditIdentity (actor : Option IdentityRow) (action resourceId : String)
    (decision : AuditDecision) (reason : String) : Promise Unit :=
  createAuditEvent env
    { actorIdentityId := actor.map IdentityRow.id
      action := action
      resourceType := "IDENTITY"
      resourceId := resourceId
      decision := decision
      reason := reason }

/-! ### assignRoles -/

structure AssignRolesInput where
  identityId : String
  roleNames : List RoleName
  deriving DecidableEq

def assignRoles (user : Option SessionUser) (input : AssignRolesInput) : Promise (List String) :=
  adminProcedure user fun user => do
    match ← getIdentityById env input.identityId with
    | none => throw notFound
    | some identity => do
      let actingAdminIdentity ← getIdentityByLinkedUserId env user.id
      match ← applyIdentityRoles env identity.id input.roleNames with
      | none => throw (.trpc .internalServerError "Role update could not be persisted")
      | some updatedRoles => do
        auditIdentity env actingAdminIdentity "ROLE_CHANGED" identity.id .allow
          (s!"Roles for {identity.displayName} set to " ++ ", ".intercalate updatedRoles)
        pure updatedRoles

/-! ### create -/

def anchorIdentity (did displayName : String) : Promise Unit :=
  match env.besu with
  | none =>
    Governance.persistAnchorAudit env did
      { outcome := .skipped
        reason := some "Blockchain is not configured (MOCK mode); identity is not anchored on-chain" }
  | some besu => Governance.persistAnchorAudit env did (besu.anchorIdentity did displayName)

def duplicateDid (error : Error) : Error :=
  if error = .other "Duplicate entry" then
    .trpc .conflict "An identity with this DID already exists"
  else error

/-- `uuid` is what `crypto.randomUUID()` gives. -/
def create (user : Option SessionUser) (uuid : String) (input : InsertIdentity) :
    Promise IdentityRow :=
  adminProcedure user fun user => do
    match ← tryCatch (createIdentity env uuid input) fun error => throw (duplicateDid error) with
    | none => throw (.trpc .internalServerError "Identity could not be created")
    | some identity => do
      tryCatch
        (createDidRecord env identity.id input.did
          (if input.status = .active then .active else .revoked))
        fun _ => pure ()
      anchorIdentity env input.did input.displayName
      let actingAdminIdentity ← getIdentityByLinkedUserId env user.id
      auditIdentity env actingAdminIdentity "IDENTITY_CREATED" identity.id .allow
        s!"Identity {identity.displayName} ({identity.did}) registered"
      pure identity

/-! ### setStatus -/

structure SetStatusInput where
  identityId : String
  status : IdentityStatus
  deriving DecidableEq

structure SetStatusResult where
  identity : IdentityRow
  changed : Bool
  deriving DecidableEq

def setStatusAction : IdentityStatus → String
  | .revoked => "IDENTITY_REVOKED"
  | .suspended => "IDENTITY_SUSPENDED"
  | .active => "IDENTITY_REACTIVATED"

/-- The on-chain part: nothing without an operator key, else an anchor and a status transaction,
whose failures are caught. -/
def anchorStatusChange (identity : IdentityRow) : Promise Unit :=
  match env.besu with
  | none => pure ()
  | some besu =>
    tryCatch
      (if besu.privateKey.getD "" = "" then pure ()
        else do
          anchorIdentity env identity.did identity.displayName
          Governance.Lifecycle.setIdentityStatusOnChain)
      fun _ => pure ()

def selfLockoutReason (status : IdentityStatus) : String :=
  s!"Self-lockout prevention: an administrator cannot set their own identity to {status.label}"

def setStatus (user : Option SessionUser) (input : SetStatusInput) : Promise SetStatusResult :=
  adminProcedure user fun user => do
    match ← getIdentityById env input.identityId with
    | none => throw notFound
    | some identity =>
      if identity.status = input.status then pure { identity := identity, changed := false }
      else do
        let actingIdentity ← getIdentityByLinkedUserId env user.id
        if actingIdentity.map IdentityRow.id = some input.identityId ∧ input.status ≠ .active then do
          auditIdentity env actingIdentity "AUTHORIZATION_DENIED" input.identityId .deny
            (selfLockoutReason input.status)
          throw (.trpc .forbidden (selfLockoutReason input.status))
        else do
          let updated ← applyIdentityStatusChange env input.identityId input.status
          anchorStatusChange env identity
          let actingAdminIdentity ← getIdentityByLinkedUserId env user.id
          auditIdentity env actingAdminIdentity (setStatusAction input.status) identity.id .allow
            s!"Identity status set to {input.status.label} by an administrator"
          pure { identity := updated.getD identity, changed := true }

end Sampraan.Identities
