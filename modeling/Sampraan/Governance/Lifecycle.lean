import Sampraan.Backend.IdentityTables
import Sampraan.Governance.Actors

/-! The identity lifecycle and role procedures of `governance.router.ts`. -/

namespace Sampraan.Governance.Lifecycle

open Backend Library CryptoAssurance

variable (env : Environment)

/-- The status transaction of the chain adapter. What it changes on-chain no procedure here
reads. -/
def setIdentityStatusOnChain : Promise Unit := do
  match ← Async.query fun w => w.ledger.refusal with
  | some message => throw (.other message)
  | none => pure ()

/-- The `try` block after an update; its outcome goes into the metadata of the audit row. -/
def anchorStatus (target : IdentityRow) : Promise Unit :=
  tryCatch
    (match env.besu with
      | none => throw governanceUnavailable
      | some besu => do
        let _ ← resolveOnChainWallet env besu target.did target.displayName
        setIdentityStatusOnChain)
    fun _ => pure ()

structure LifecycleInput where
  did : String
  reason : String
  deriving DecidableEq

def verify (user : Option ℕ) (input : LifecycleInput) : Promise (Option IdentityRow) := do
  let actor ← requireActor env user
  let target ← requireTarget env input.did
  assertScopedManager actor target "Verify identity"
  if target.identity.lifecycleState ≠ .pending then
    throw (.trpc .preconditionFailed
      s!"Only PENDING identities can be verified (this one is {target.identity.lifecycleState.label})")
  else do
    let updated ← updateIdentityLifecycle env target.identity.id .verified
    anchorStatus env target.identity
    audit env actor.identity.id "USER_VERIFIED" "IDENTITY" target.identity.id .allow input.reason
    pure updated

/-- The last-admin check of `suspend` and `assignRolesAdmin`. -/
def assertNotLastAdmin (removing : Bool) (message : String) : Promise Unit :=
  if removing then do
    let admins ← countActiveAdminIdentities env
    if admins ≤ 1 then throw (.trpc .preconditionFailed message) else pure ()
  else pure ()

def suspend (user : Option ℕ) (input : LifecycleInput) : Promise (Option IdentityRow) := do
  let actor ← requireActor env user
  let target ← requireTarget env input.did
  assertScopedManager actor target "Suspend identity"
  if target.identity.id = actor.identity.id then
    throw (.trpc .forbidden "Self-lockout prevention: you cannot suspend your own identity")
  else if target.identity.lifecycleState ≠ .verified then
    throw (.trpc .preconditionFailed
      s!"Only VERIFIED identities can be suspended (this one is {target.identity.lifecycleState.label})")
  else do
    let targetRoles ← getIdentityRoles env target.identity.id
    assertNotLastAdmin env (targetRoles.contains "ADMIN")
      "Last-admin protection: the final active administrator cannot be suspended"
    let updated ← updateIdentityLifecycle env target.identity.id .suspended
    anchorStatus env target.identity
    audit env actor.identity.id "ACCESS_SUSPENDED" "IDENTITY" target.identity.id .allow input.reason
    pure updated

def reactivate (user : Option ℕ) (input : LifecycleInput) : Promise (Option IdentityRow) := do
  let actor ← requireActor env user
  let target ← requireTarget env input.did
  assertScopedManager actor target "Reactivate identity"
  if target.identity.lifecycleState ≠ .suspended then
    throw (.trpc .preconditionFailed
      s!"Only SUSPENDED identities can be reactivated (this one is {target.identity.lifecycleState.label})")
  else do
    let updated ← updateIdentityLifecycle env target.identity.id .verified
    anchorStatus env target.identity
    audit env actor.identity.id "ACCESS_REACTIVATED" "IDENTITY" target.identity.id .allow
      input.reason
    pure updated

/-! ### Roles -/

def auditorCombination (roleNames : List String) : Bool :=
  roleNames.contains "AUDITOR" && roleNames.any fun r => r == "ADMIN" || r == "MANAGER"

def assertNotAuditorCombination (roleNames : List String) (what : String) : Promise Unit :=
  if auditorCombination roleNames then
    throw (.trpc .preconditionFailed
      s!"{what}: AUDITOR is exclusive and cannot be combined with ADMIN or MANAGER")
  else pure ()

def pendingRolesError : Error :=
  .trpc .preconditionFailed "A PENDING identity cannot receive privileged roles"

/-- The one role that the schema of its input admits is USER. -/
def assignUserRole (user : Option ℕ) (input : LifecycleInput) : Promise (Option (List String)) := do
  let actor ← requireActor env user
  let target ← requireTarget env input.did
  assertScopedManager actor target "Assign role"
  if target.identity.lifecycleState = .pending then throw pendingRolesError
  else do
    let updated ← applyIdentityRoles env target.identity.id [.user]
    assertNotAuditorCombination (updated.getD []) "Assign role"
    setIdentityScope env target.identity.id (some (effectiveScope actor.identity))
    audit env actor.identity.id "USER_ROLE_ASSIGNED" "IDENTITY" target.identity.id .allow input.reason
    pure updated

structure AssignRolesInput where
  did : String
  roles : List RoleName
  reason : String
  deriving DecidableEq

def assignRolesAdmin (user : Option ℕ) (input : AssignRolesInput) :
    Promise (Option (List String)) := do
  let actor ← requireActor env user
  assertAdmin actor "Role administration"
  let target ← requireTarget env input.did
  assertNotAuditorCombination (input.roles.map RoleName.label) "Role administration"
  if target.identity.lifecycleState = .pending ∧ input.roles.any (· ≠ .user) then
    throw pendingRolesError
  else do
    let targetRoles ← getIdentityRoles env target.identity.id
    assertNotLastAdmin env (targetRoles.contains "ADMIN" && !input.roles.contains .admin)
      "Last-admin protection: the final active administrator cannot be removed"
    let updated ← applyIdentityRoles env target.identity.id input.roles
    audit env actor.identity.id "ROLE_CHANGED" "IDENTITY" target.identity.id .allow input.reason
    pure updated

end Sampraan.Governance.Lifecycle
