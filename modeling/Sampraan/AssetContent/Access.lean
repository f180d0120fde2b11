import Sampraan.AssetContent.Content
import Sampraan.Backend.ApprovalTables
import Sampraan.Backend.AssetTables
import Sampraan.Did.StepUp
import Sampraan.Governance.Actors

/-! Who may do what with the content of an asset, as `asset-content.router.ts` asks. -/

namespace Sampraan.AssetContent

open Backend Library
open Did (hasValidStepUp)
open Governance (Audits)

variable (env : Environment)

inductive ContentAction where
  | view
  | edit
  | upload
  | manageAccess
  deriving DecidableEq

def ContentAction.label : ContentAction → String
  | .view => "VIEW"
  | .edit => "EDIT"
  | .upload => "UPLOAD"
  | .manageAccess => "MANAGE_ACCESS"

def actionPermission : ContentAction → String
  | .view => "asset:read"
  | .edit => "asset:edit"
  | .upload => "asset:create"
  | .manageAccess => "asset:assign"

def stepUpPurposeFor (action : ContentAction) (assetRowId : String) : String :=
  s!"content-{toLowerCase action.label}:{assetRowId}"

/-! ### The actor -/

/-- `ctx.user`. -/
structure ContentUser where
  id : ℕ
  role : String
  deriving DecidableEq

structure ContentActor where
  isPlatformAdmin : Bool
  identity : Option IdentityRow
  roles : List String
  permissions : List String
  deriving DecidableEq

def ContentActor.platformRole (actor : ContentActor) : String :=
  if actor.isPlatformAdmin then "admin" else "user"

def actorRoles (identity : Option IdentityRow) : Promise RolesAndPermissions :=
  match identity with
  | some identity => getIdentityRolesAndPermissions env identity.id
  | none => pure { roles := [], permissions := [] }

def resolveActor (user : ContentUser) : Promise ContentActor := do
  let identity ← getIdentityByLinkedUserId env user.id
  let granted ← actorRoles env identity
  let isAdmin := user.role == "admin"
  pure
    { isPlatformAdmin := isAdmin
      identity := identity
      roles := granted.roles
      permissions :=
        if isAdmin then (granted.permissions ++ ["administration:manage"]).eraseDups
        else granted.permissions }

def listActiveAssetAccessGrants (assetRowId identityId : String) : Promise (List GrantPermission) :=
  if !env.databaseConfigured then pure []
  else Async.query fun w =>
    (w.assetAccessGrants.filter fun grant => grant.assetId == assetRowId &&
      grant.granteeIdentityId == identityId && grant.revokedAt.isNone).map AssetAccessGrantRow.permission

/-! ### The decision -/

inductive AccessBaseline where
  | owner
  | custodian
  | grant
  | none
  deriving DecidableEq

structure ContentAccessDecision where
  decision : AuditDecision
  reason : String
  baseline : AccessBaseline
  deriving DecidableEq

def isSensitiveOrAbove (classification : AssetClassification) : Bool :=
  classification == .sensitive || classification == .highlySensitive || classification == .critical

def isHighlySensitive (classification : AssetClassification) : Bool :=
  classification == .highlySensitive || classification == .critical

def denied (reason : String) (baseline : AccessBaseline) : ContentAccessDecision where
  decision := .deny
  reason := reason
  baseline := baseline

/-- How the actor stands to the asset, with the active grants on it. -/
structure Standing where
  isAdmin : Bool
  isOwner : Bool
  isCustodian : Bool
  hasViewGrant : Bool
  hasEditGrant : Bool
  holdsPermission : Bool
  deriving DecidableEq

def standingOf (actor : ContentActor) (identityId : String) (asset : AssetRow) (action : ContentAction)
    (grants : List GrantPermission) : Standing :=
  let isAdmin := actor.isPlatformAdmin || actor.roles.contains "ADMIN"
  { isAdmin := isAdmin
    isOwner := identityId == asset.ownerIdentityId
    isCustodian := identityId == asset.custodianIdentityId
    hasViewGrant := grants.any fun grant => grant == .view || grant == .edit
    hasEditGrant := grants.any fun grant => grant == .edit
    holdsPermission := isAdmin || actor.permissions.contains (actionPermission action) ||
      actor.permissions.contains "administration:manage" }

def Standing.baseline (standing : Standing) : AccessBaseline :=
  if standing.isOwner then .owner
  else if standing.isCustodian then .custodian
  else if standing.hasEditGrant || standing.hasViewGrant then .grant
  else .none

def Standing.hasAccess (standing : Standing) (asset : AssetRow) : ContentAction → Bool
  | .view => standing.isAdmin || standing.isOwner || standing.isCustodian || standing.hasViewGrant ||
      standing.hasEditGrant || (standing.holdsPermission && !isHighlySensitive asset.classification)
  | .edit => standing.isAdmin || standing.isOwner || standing.isCustodian || standing.hasEditGrant
  | .upload => standing.isAdmin || standing.isOwner || standing.isCustodian || standing.hasEditGrant
  | .manageAccess => standing.isAdmin || standing.isOwner

def Standing.isRelated (standing : Standing) : Bool :=
  standing.isAdmin || standing.isOwner || standing.isCustodian || standing.hasViewGrant ||
    standing.hasEditGrant

def needsStepUp (asset : AssetRow) : ContentAction → Bool
  | .view => isSensitiveOrAbove asset.classification
  | .edit => true
  | .upload => true
  | .manageAccess => false

/-- Whether the identity has stepped up, where the action asks for it. -/
def satisfiesStepUp (identity : IdentityRow) (asset : AssetRow) (action : ContentAction)
    (purpose : String) : Promise Bool :=
  if needsStepUp asset action then hasValidStepUp env identity.id purpose else pure true

/-- The checks behind the first four, which look at the identity and the asset alone. -/
def evaluateStanding (actor : ContentActor) (identity : IdentityRow) (asset : AssetRow)
    (action : ContentAction) (purpose : String) (standing : Standing) : Promise ContentAccessDecision :=
  let permission := actionPermission action
  if !standing.hasAccess asset action then
    let role := actor.roles.head?.getD actor.platformRole
    pure (denied s!"Role {role} does not hold {permission} access for this asset" standing.baseline)
  else if !standing.holdsPermission && action != .view then
    pure (denied s!"Identity does not hold {permission}" standing.baseline)
  else if action == .view && isSensitiveOrAbove asset.classification && !standing.isRelated then
    pure (denied s!"{asset.classification.label} content requires an explicit access grant"
      standing.baseline)
  else do
    let satisfied ← satisfiesStepUp env identity asset action purpose
    pure
      (if satisfied then
        { decision := .allow
          reason := "Content authorization satisfied"
          baseline := standing.baseline }
      else
        { decision := .challenge
          reason := "Step-up authentication is required for this operation"
          baseline := standing.baseline })

def evaluateContentAccess (actor : ContentActor) (asset : AssetRow) (action : ContentAction)
    (purpose : String) : Promise ContentAccessDecision :=
  match actor.identity with
  | none => pure (denied "No SAMPRAAN identity is linked to this session" .none)
  | some identity =>
    if identity.status ≠ .active then
      pure (denied s!"Identity is {toLowerCase identity.status.label}" .none)
    else if identity.lifecycleState ≠ .verified then
      pure (denied s!"Identity lifecycle is {toLowerCase identity.lifecycleState.label}" .none)
    else if asset.status = .revoked then
      pure (denied "A revoked asset cannot be accessed" .none)
    else do
      let grants ← listActiveAssetAccessGrants env asset.id identity.id
      evaluateStanding env actor identity asset action purpose
        (standingOf actor identity.id asset action grants)

/-! ### The gate -/

structure AuthorizedContent where
  actor : ContentActor
  asset : AssetRow
  decision : ContentAccessDecision

def accessAudit (actor : ContentActor) (asset : AssetRow) (action : ContentAction)
    (decision : ContentAccessDecision) : AuditEventRow where
  actorIdentityId := actor.identity.map IdentityRow.id
  action :=
    if decision.decision = .allow then s!"ASSET_CONTENT_{action.label}_AUTHORIZED"
    else "ASSET_CONTENT_ACCESS_DENIED"
  resourceType := "ASSET"
  resourceId := asset.assetId
  decision := decision.decision
  reason := decision.reason

/-- `authorizeContentOperation` once it has found the asset. -/
def authorizeFor (user : ContentUser) (asset : AssetRow) (action : ContentAction) :
    Promise (ContentActor × ContentAccessDecision) := do
  let actor ← resolveActor env user
  let decision ← evaluateContentAccess env actor asset action (stepUpPurposeFor action asset.id)
  createAuditEvent env (accessAudit actor asset action decision)
  match decision.decision with
  | .deny => throw (.trpc .forbidden decision.reason)
  | .challenge => throw (.trpc .preconditionFailed s!"STEP_UP_REQUIRED: {decision.reason}")
  | .allow => pure (actor, decision)

def authorizeContentOperation (user : ContentUser) (assetId : String) (action : ContentAction) :
    Promise AuthorizedContent := do
  match ← getAssetById env assetId with
  | none => throw (.trpc .notFound "Asset not found")
  | some asset => do
    let (actor, decision) ← authorizeFor env user asset action
    pure { actor := actor, asset := asset, decision := decision }

/-! ### What the gate does to the state -/

section

variable {I : World → Prop}

theorem resolveActor_audits (user : ContentUser) : (resolveActor env user).Obeys I Audits := by
  apply (Governance.getIdentityByLinkedUserId_audits env user.id).bind
  intro identity
  apply Async.Obeys.bind
  · cases identity with
    | none => exact Async.obeys_pure _
    | some identity =>
      apply Async.Obeys.ite (Async.obeys_pure _)
      apply (Governance.getIdentityRoles_audits env identity.id).bind
      intro roles
      apply Async.Obeys.ite (Async.obeys_pure _)
      exact (Async.obeys_query Audits.refl).bind fun _ => Async.obeys_pure _
  · intro granted
    exact Async.obeys_pure _

theorem evaluateStanding_audits (actor : ContentActor) (identity : IdentityRow) (asset : AssetRow)
    (action : ContentAction) (purpose : String) (standing : Standing) :
    (evaluateStanding env actor identity asset action purpose standing).Obeys I Audits := by
  apply Async.Obeys.ite (Async.obeys_pure _)
  apply Async.Obeys.ite (Async.obeys_pure _)
  apply Async.Obeys.ite (Async.obeys_pure _)
  apply Async.Obeys.bind
  · apply Async.Obeys.ite
    · exact .ite (Async.obeys_pure _) (Async.obeys_query Audits.refl)
    · exact Async.obeys_pure _
  · intro satisfied
    exact Async.obeys_pure _

theorem evaluateContentAccess_audits (actor : ContentActor) (asset : AssetRow) (action : ContentAction)
    (purpose : String) : (evaluateContentAccess env actor asset action purpose).Obeys I Audits := by
  unfold evaluateContentAccess
  cases actor.identity with
  | none => exact Async.obeys_pure _
  | some identity =>
    apply Async.Obeys.ite (Async.obeys_pure _)
    apply Async.Obeys.ite (Async.obeys_pure _)
    apply Async.Obeys.ite (Async.obeys_pure _)
    apply Async.Obeys.bind
    · exact .ite (Async.obeys_pure _) (Async.obeys_query Audits.refl)
    · intro grants
      exact evaluateStanding_audits env actor identity asset action purpose _

theorem authorizeFor_audits (user : ContentUser) (asset : AssetRow) (action : ContentAction) :
    (authorizeFor env user asset action).Obeys I Audits := by
  apply (resolveActor_audits env user).bind
  intro actor
  apply (evaluateContentAccess_audits env actor asset action _).bind
  intro decision
  apply (Governance.createAuditEvent_audits env _).bind
  intro _
  cases decision.decision with
  | deny => exact Async.obeys_throw _
  | challenge => exact Async.obeys_throw _
  | allow => exact Async.obeys_pure _

end

end Sampraan.AssetContent
