import Sampraan.Assets.AuthorizeTransfer

/-!
`policies.evaluateTransfer` of `routers.ts`, the dry run of a transfer, next to
the decision of `assets.authorizeTransfer` in the same state. The dry run asks
the same engine, without the custodian, the approval, the risk level and the
step-up state.
-/

namespace Sampraan.Assets

open Backend Library

variable (env : Environment)

/-! ### The procedure -/

structure ContractCheck where
  check : String
  note : String
  deriving DecidableEq

structure DryRun where
  result : AuthorizationResult
  asset : AssetRow
  actor : Option IdentityRow
  granted : RolesAndPermissions
  ownerStatus : IdentityStatus
  contractChecks : List ContractCheck
  deriving DecidableEq

def dryRunRequest (user : PlatformUser) (granted : RolesAndPermissions) (asset : AssetRow)
    (actor : Option IdentityRow) : AuthorizationRequest where
  identityStatus := (actor.map (·.status.label)).getD "UNREGISTERED"
  role := effectiveRole user granted.roles
  permissions := effectivePermissions user granted.permissions
  resourceType := "asset"
  action := "TRANSFER"
  assetClassification := some asset.classification.label
  actorIdentityId := none
  currentCustodianIdentityId := none
  approvalStatus := none
  riskLevel := none
  stepUpAuthenticated := false
  approvalRequired := false

def contractChecks (asset : AssetRow) (ownerStatus : IdentityStatus) : List ContractCheck :=
  [{ check := "Caller holds ASSET_MANAGER_ROLE"
     note := "Re-verified on-chain by SampraanAssetRegistry.transferCustody" },
   { check := s!"Asset status is ACTIVE (current: {asset.status.label})"
     note := "Suspended/revoked assets are frozen on-chain" },
   { check := s!"Owner identity ACTIVE (current: {ownerStatus.label})"
     note := "Server-side defense in depth" },
   { check := "Recipient identity registered and ACTIVE"
     note := "RecipientNotActive revert otherwise" }]

def evaluateTransfer (user : Option PlatformUser) (assetId : String) : Promise DryRun :=
  match user with
  | none => throw (.trpc .unauthorized "Please login (10001)")
  | some user => do
    match ← getAssetById env assetId with
    | none => throw (.trpc .notFound "Asset not found")
    | some asset => do
      let actor ← getIdentityByLinkedUserId env user.id
      let granted ← rolesAndPermissionsOf env actor
      let owner ← getIdentityById env asset.ownerIdentityId
      let ownerStatus := (owner.map IdentityRow.status).getD .suspended
      let result := evaluate (dryRunRequest user granted asset actor)
      auditTransfer env actor asset "AUTHORIZATION_DRY_RUN" result.decision result.reason
      pure
        { result := result
          asset := asset
          actor := actor
          granted := granted
          ownerStatus := ownerStatus
          contractChecks := contractChecks asset ownerStatus }

/-! ### What the engine is not told -/

namespace AuthorizationRequest

/-- The request as the dry run makes it. -/
def dryRun (r : AuthorizationRequest) : AuthorizationRequest :=
  { r with
    actorIdentityId := none
    currentCustodianIdentityId := none
    approvalStatus := none
    riskLevel := none
    stepUpAuthenticated := false
    approvalRequired := false }

def highlySensitive (r : AuthorizationRequest) : Prop :=
  r.assetClassification = some "HIGHLY_SENSITIVE"

instance (r : AuthorizationRequest) : Decidable r.highlySensitive := by
  unfold highlySensitive
  infer_instance

/-- The checks that look at nothing but what the dry run is told as well. -/
def Barred (r : AuthorizationRequest) : Prop :=
  r.identityStatus ≠ "ACTIVE" ∨
    (r.role ≠ "ADMIN" ∧ "asset:transfer" ∉ r.permissions ∧
      "administration:manage" ∉ r.permissions) ∨
    (r.highlySensitive ∧ r.role = "USER")

/-- The custody check refuses. -/
def CustodyRefuses (r : AuthorizationRequest) : Prop := r.role ≠ "ADMIN" ∧ notCustodian r = true

def RiskElevates (r : AuthorizationRequest) : Prop :=
  r.riskLevel = some .high ∧ r.stepUpAuthenticated = false

/-- Nothing that the dry run is not told changes the decision. -/
def Unaffected (r : AuthorizationRequest) : Prop :=
  r.Barred ∨
    if r.highlySensitive then
      r.stepUpAuthenticated = false ∨
        (¬ r.CustodyRefuses ∧ r.approvalStatus ≠ some .rejected ∧
          r.approvalRequired = true ∧ r.approvalStatus ≠ some .approved)
    else
      ¬ r.CustodyRefuses ∧ r.approvalStatus ≠ some .rejected ∧
        (r.approvalRequired = true → r.approvalStatus = some .approved) ∧ ¬ r.RiskElevates

end AuthorizationRequest

open AuthorizationRequest

theorem evaluate_barred {r : AuthorizationRequest} (hresource : r.resourceType = "asset")
    (haction : r.action = "TRANSFER") (hbarred : r.Barred) : (evaluate r).decision = .deny := by
  have hpermission : toLowerCase "asset" ++ ":" ++ toLowerCase "TRANSFER" = "asset:transfer" := by
    decide
  simp only [evaluate, hresource, haction, hpermission]
  by_cases hactive : r.identityStatus = "ACTIVE"
  · by_cases hheld : r.role ≠ "ADMIN" ∧ "asset:transfer" ∉ r.permissions ∧
      "administration:manage" ∉ r.permissions
    · simp [hactive, hheld, deny]
    · have hsensitive : r.highlySensitive ∧ r.role = "USER" := by
        obtain hstatus | hpermissions | hsensitive := hbarred
        · exact absurd hactive hstatus
        · exact absurd hpermissions hheld
        · exact hsensitive
      have hclass : r.assetClassification = some "HIGHLY_SENSITIVE" := hsensitive.1
      simp only [hactive, hclass, hsensitive.2, deny, ne_eq, not_true_eq_false, if_false, true_and,
        and_self, if_true]
      split <;> rfl
  · simp [hactive, deny]

theorem evaluate_of_not_barred {r : AuthorizationRequest} (hresource : r.resourceType = "asset")
    (haction : r.action = "TRANSFER") (hbarred : ¬ r.Barred) : (evaluate r).decision =
      if r.highlySensitive ∧ r.stepUpAuthenticated = false then .challenge
      else if r.role ≠ "ADMIN" ∧ notCustodian r = true then .deny
      else if r.approvalStatus = some .rejected then .deny
      else if r.approvalRequired = true ∧ r.approvalStatus ≠ some .approved then .challenge
      else if r.riskLevel = some .high ∧ r.stepUpAuthenticated = false then .challenge
      else .allow := by
  have hpermission : toLowerCase "asset" ++ ":" ++ toLowerCase "TRANSFER" = "asset:transfer" := by
    decide
  obtain ⟨hstatus, hrest⟩ := not_or.mp hbarred
  obtain ⟨hheld, hsensitive⟩ := not_or.mp hrest
  have hactive : r.identityStatus = "ACTIVE" := not_not.mp hstatus
  simp only [highlySensitive] at hsensitive
  simp only [evaluate, hresource, haction, hpermission, hactive, hheld, hsensitive, highlySensitive,
    ne_eq, not_true_eq_false, if_false, true_and, true_or, Bool.not_eq_true']
  repeat' split
  all_goals rfl

/-- Past the checks it shares, the dry run only looks at the classification. -/
theorem evaluate_dryRun_of_not_barred {r : AuthorizationRequest}
    (hresource : r.resourceType = "asset") (haction : r.action = "TRANSFER")
    (hbarred : ¬ r.Barred) : (evaluate r.dryRun).decision =
      if r.highlySensitive then .challenge else .allow := by
  have hdry : ¬ r.dryRun.Barred := hbarred
  rw [evaluate_of_not_barred (r := r.dryRun) hresource haction hdry]
  by_cases hsensitive : r.highlySensitive
  · have hchallenged : r.dryRun.highlySensitive ∧ r.dryRun.stepUpAuthenticated = false :=
      ⟨hsensitive, rfl⟩
    rw [if_pos hchallenged, if_pos hsensitive]
  · have hdrySensitive : ¬ r.dryRun.highlySensitive := hsensitive
    have hcustodian : notCustodian r.dryRun = false := by simp [notCustodian, dryRun]
    simp only [hdrySensitive, hsensitive, hcustodian]
    simp [dryRun]

theorem dryRun_decision_eq_iff {r : AuthorizationRequest} (hresource : r.resourceType = "asset")
    (haction : r.action = "TRANSFER") :
    (evaluate r.dryRun).decision = (evaluate r).decision ↔ r.Unaffected := by
  by_cases hbarred : r.Barred
  · have hdry : r.dryRun.Barred := hbarred
    rw [evaluate_barred (r := r.dryRun) hresource haction hdry,
      evaluate_barred hresource haction hbarred]
    simp [Unaffected, hbarred]
  · rw [evaluate_dryRun_of_not_barred hresource haction hbarred,
      evaluate_of_not_barred hresource haction hbarred]
    simp only [Unaffected, hbarred, false_or, CustodyRefuses, RiskElevates]
    by_cases hsensitive : r.highlySensitive
    · simp only [hsensitive, true_and, if_true]
      by_cases hstep : r.stepUpAuthenticated = false
      · simp [hstep]
      · grind
    · simp only [hsensitive, false_and, if_false]
      grind

/-! ### The request in a state -/

def actorIn (w : World) (user : PlatformUser) : Option IdentityRow :=
  w.identities.find? (·.linkedUserId == some user.id)

def permissionsIn (w : World) (roles : List String) : List String :=
  ((w.rolePermissions.filter (roles.contains ·.roleName)).map
    RolePermissionRow.permissionKey).eraseDups

def grantedIn (w : World) : Option IdentityRow → RolesAndPermissions
  | none => { roles := [], permissions := [] }
  | some identity =>
    let roles := Governance.rolesOf w identity.id
    if roles = [] then { roles := [], permissions := [] }
    else { roles := roles, permissions := permissionsIn w roles }

def stepUpIn (w : World) (actor : Option IdentityRow) (asset : AssetRow) : Bool :=
  actor.any fun identity =>
    (Table.newest (fun row => row.consumedAt.getD 0)
      (Did.verifiedSince identity.id (stepUpPurposeFor "TRANSFER" asset.id)
        (w.now - Did.stepUpValidityMs)) w.stepUpSessions).isSome

def approvalIn (w : World) (actor : Option IdentityRow) (asset : AssetRow) :
    Option AssetApprovalRow :=
  actor.bind fun identity =>
    Table.newest AssetApprovalRow.createdAt
      (isActiveApproval
        { assetId := asset.id, requesterIdentityId := identity.id, action := "TRANSFER" })
      w.assetApprovals

def riskIn (w : World) (actor : Option IdentityRow) (asset : AssetRow) : RiskLevel :=
  match actor with
  | none => .low
  | some identity =>
    riskOf identity.id (isSensitive asset.classification) (w.auditEvents.reverse.take 200)

def ownerStatusIn (w : World) (asset : AssetRow) : IdentityStatus :=
  ((w.identities.find? (·.id == asset.ownerIdentityId)).map IdentityRow.status).getD .suspended

/-- What a transfer without a named recipient asks the engine. -/
def requestIn (w : World) (user : PlatformUser) (asset : AssetRow) : AuthorizationRequest :=
  let actor := actorIn w user
  transferRequest user (grantedIn w actor) asset actor actor (stepUpIn w actor asset)
    (approvalIn w actor asset) (riskIn w actor asset)

section

variable {env} (hdb : env.databaseConfigured = true) (w : World)

include hdb

theorem getAssetById_run (id : String) :
    (getAssetById env id).run w = (.ok (w.assets.find? (·.id == id)), w) := by
  simp [getAssetById, hdb]

theorem getIdentityById_run (id : String) :
    (getIdentityById env id).run w = (.ok (w.identities.find? (·.id == id)), w) := by
  simp [getIdentityById, selectIdentityById, hdb]

theorem actorIn_run (user : PlatformUser) :
    (getIdentityByLinkedUserId env user.id).run w = (.ok (actorIn w user), w) := by
  simp [getIdentityByLinkedUserId, actorIn, hdb]

theorem rolesAndPermissionsOf_run (actor : Option IdentityRow) :
    (rolesAndPermissionsOf env actor).run w = (.ok (grantedIn w actor), w) := by
  cases actor with
  | none => rfl
  | some identity =>
    have hroles : (getIdentityRoles env identity.id).run w =
        (.ok (Governance.rolesOf w identity.id), w) := by
      simp [getIdentityRoles, Governance.rolesOf, hdb]
    simp only [rolesAndPermissionsOf, getIdentityRolesAndPermissions, hdb, Bool.not_true,
      Bool.false_eq_true, if_false, grantedIn]
    rw [Async.run_bind_ok hroles]
    split
    · rfl
    · rfl

theorem stepUpOf_run (actor : Option IdentityRow) (asset : AssetRow) :
    (stepUpOf env actor asset).run w = (.ok (stepUpIn w actor asset), w) := by
  cases actor with
  | none => rfl
  | some identity => simp [stepUpOf, Did.hasValidStepUp, stepUpIn, hdb]

theorem approvalOf_run (actor : Option IdentityRow) (asset : AssetRow) :
    (approvalOf env actor asset).run w = (.ok (approvalIn w actor asset), w) := by
  cases actor with
  | none => rfl
  | some identity => simp [approvalOf, getActiveAssetApproval, approvalIn, hdb]

theorem assessRisk_run (actor : Option IdentityRow) (asset : AssetRow) :
    (assessRisk env (actor.map IdentityRow.id) asset.classification).run w =
      (.ok (riskIn w actor asset), w) := by
  cases actor with
  | none => rfl
  | some identity => simp [assessRisk, listAuditEvents, riskIn, hdb]

theorem auditTransfer_run (actor : Option IdentityRow) (asset : AssetRow) (action : String)
    (decision : AuditDecision) (reason : String) :
    ∃ t, (auditTransfer env actor asset action decision reason).run w = (.ok (), t) := by
  simp [auditTransfer, createAuditEvent, hdb]

end

/-! ### The two decisions -/

def dryRunDecision (user : PlatformUser) (assetId : String) (w : World) : Option AuditDecision :=
  match ((evaluateTransfer env (some user) assetId).run w).1 with
  | .ok reply => some reply.result.decision
  | .error _ => none

def decisionOf : Except TransferReply Prepared → AuditDecision
  | .error reply => reply.decision
  | .ok p => p.result.decision

/-- The decision that `authorizeTransfer` reaches before it submits, if it reaches one. -/
def transferDecision (user : PlatformUser) (assetId : String) (w : World) : Option AuditDecision :=
  match ((prepare env (some user) { assetId := assetId, recipientIdentityId := none }).run w).1 with
  | .ok answer => some (decisionOf answer)
  | .error _ => none

theorem requestIn_dryRun (w : World) (user : PlatformUser) (asset : AssetRow) :
    (requestIn w user asset).dryRun =
      dryRunRequest user (grantedIn w (actorIn w user)) asset (actorIn w user) := rfl

variable {env}

theorem dryRunDecision_eq (hdb : env.databaseConfigured = true) (user : PlatformUser)
    (assetId : String) (w : World) : dryRunDecision env user assetId w =
      (w.assets.find? (·.id == assetId)).map fun asset =>
        (evaluate (requestIn w user asset).dryRun).decision := by
  unfold dryRunDecision evaluateTransfer
  rw [Async.run_bind_ok (getAssetById_run hdb w assetId)]
  cases hasset : w.assets.find? (·.id == assetId) with
  | none => rfl
  | some asset =>
    simp only [Option.map_some]
    rw [Async.run_bind_ok (actorIn_run hdb w user),
      Async.run_bind_ok (rolesAndPermissionsOf_run hdb w _),
      Async.run_bind_ok (getIdentityById_run hdb w _), ← requestIn_dryRun]
    obtain ⟨t, haudit⟩ := auditTransfer_run hdb w (actorIn w user) asset "AUTHORIZATION_DRY_RUN"
      (evaluate (requestIn w user asset).dryRun).decision
      (evaluate (requestIn w user asset).dryRun).reason
    rw [Async.run_bind_ok haudit]
    rfl

theorem denied_run (hdb : env.databaseConfigured = true) (w : World) (actor : Option IdentityRow)
    (asset : AssetRow) (reason : String) :
    ∃ a t, (denied env actor asset reason).run w = (.ok a, t) ∧ decisionOf a = .deny := by
  obtain ⟨t, haudit⟩ := auditTransfer_run hdb w actor asset "AUTHORIZATION_DENIED" .deny reason
  exact ⟨.error { decision := .deny, reason := reason, policyId := none, transaction := none }, t,
    Async.run_bind_ok haudit, rfl⟩

theorem decideTransfer_run (hdb : env.databaseConfigured = true) (w : World) (user : PlatformUser)
    (asset : AssetRow) : ∃ a t,
      (decideTransfer env user (grantedIn w (actorIn w user)) asset (actorIn w user)
        (actorIn w user)).run w = (.ok a, t) ∧
      decisionOf a = (evaluate (requestIn w user asset)).decision := by
  unfold decideTransfer
  rw [Async.run_bind_ok (stepUpOf_run hdb w _ _), Async.run_bind_ok (approvalOf_run hdb w _ _),
    Async.run_bind_ok (assessRisk_run hdb w _ _)]
  generalize hresult : evaluate (requestIn w user asset) = result
  simp only [requestIn] at hresult
  simp only [hresult]
  split
  · obtain ⟨t, haudit⟩ := auditTransfer_run hdb w (actorIn w user) asset
      (auditAction result.decision) result.decision result.reason
    exact ⟨.error (answerOf result none), t, Async.run_bind_ok haudit, rfl⟩
  · exact ⟨.ok _, w, rfl, rfl⟩

theorem prepare_run (hdb : env.databaseConfigured = true) {w : World} {asset : AssetRow}
    (user : PlatformUser) {assetId : String}
    (hasset : w.assets.find? (·.id == assetId) = some asset) (hactive : asset.status = .active) :
    ∃ a t, (prepare env (some user) { assetId := assetId, recipientIdentityId := none }).run w =
      (.ok a, t) ∧ decisionOf a = if ownerStatusIn w asset ≠ .active then .deny
        else (evaluate (requestIn w user asset)).decision := by
  unfold prepare
  rw [Async.run_bind_ok (getAssetById_run hdb w assetId), hasset]
  simp only
  rw [if_neg (not_not.mpr hactive), Async.run_bind_ok (actorIn_run hdb w user),
    Async.run_bind_ok (rolesAndPermissionsOf_run hdb w _)]
  simp only [resolveRecipient, Async.pure_eq, Async.fulfilled_bind, Option.isSome_none,
    Bool.false_eq_true, false_and, if_false]
  rw [Async.run_bind_ok (getIdentityById_run hdb w _)]
  by_cases howner : ownerStatusIn w asset ≠ .active
  · rw [if_pos howner]
    unfold ownerStatusIn at howner
    rw [if_pos howner]
    exact denied_run hdb w _ _ _
  · rw [if_neg howner]
    unfold ownerStatusIn at howner
    rw [if_neg howner]
    exact decideTransfer_run hdb w user asset

theorem transferDecision_eq (hdb : env.databaseConfigured = true) (user : PlatformUser)
    (assetId : String) (w : World) : transferDecision env user assetId w =
      (w.assets.find? (·.id == assetId)).bind fun asset =>
        if asset.status ≠ .active then none
        else if ownerStatusIn w asset ≠ .active then some .deny
        else some (evaluate (requestIn w user asset)).decision := by
  unfold transferDecision
  cases hasset : w.assets.find? (·.id == assetId) with
  | none =>
    unfold prepare
    rw [Async.run_bind_ok (getAssetById_run hdb w assetId), hasset]
    rfl
  | some asset =>
    rw [Option.bind_some]
    by_cases hactive : asset.status = .active
    · obtain ⟨a, t, hrun, hdecision⟩ := prepare_run hdb user hasset hactive
      rw [hrun, if_neg (not_not.mpr hactive)]
      simp only [hdecision]
      split
      · rfl
      · rfl
    · unfold prepare
      rw [Async.run_bind_ok (getAssetById_run hdb w assetId), hasset, if_pos hactive]
      simp [hactive]

/-- Where the two decisions on the asset are the same. -/
def SameDecision (w : World) (user : PlatformUser) (asset : AssetRow) : Prop :=
  asset.status = .active ∧ ((requestIn w user asset).Barred ∨
    (ownerStatusIn w asset = .active ∧ (requestIn w user asset).Unaffected))

theorem decisions_eq_iff (w : World) (user : PlatformUser) (asset : AssetRow) :
    some (evaluate (requestIn w user asset).dryRun).decision =
      (if asset.status ≠ .active then none
        else if ownerStatusIn w asset ≠ .active then some .deny
        else some (evaluate (requestIn w user asset)).decision) ↔ SameDecision w user asset := by
  unfold SameDecision
  by_cases hactive : asset.status = .active
  · by_cases howner : ownerStatusIn w asset = .active
    · simp only [hactive, howner, ne_eq, not_true_eq_false, if_false, Option.some.injEq, true_and,
        dryRun_decision_eq_iff (r := requestIn w user asset) rfl rfl]
      exact ⟨.inr, fun h => h.elim .inl id⟩
    · simp only [hactive, howner, ne_eq, not_true_eq_false, not_false_eq_true, if_false, if_true,
        Option.some.injEq, true_and, false_and, or_false]
      constructor
      · intro hdeny
        by_contra hbarred
        rw [evaluate_dryRun_of_not_barred rfl rfl hbarred] at hdeny
        split at hdeny
        · cases hdeny
        · cases hdeny
      · intro hbarred
        exact evaluate_barred (r := (requestIn w user asset).dryRun) rfl rfl hbarred
  · simp [hactive]

/-- The dry run reports the decision of the transfer just where the asset is ACTIVE and nothing
that the dry run leaves out matters. -/
theorem dryRun_agrees_iff (env : Environment) (user : PlatformUser) (assetId : String)
    (w : World) : dryRunDecision env user assetId w = transferDecision env user assetId w ↔
      (env.databaseConfigured = true → ∀ asset, w.assets.find? (·.id == assetId) = some asset →
        SameDecision w user asset) := by
  by_cases hdb : env.databaseConfigured = true
  · rw [dryRunDecision_eq hdb, transferDecision_eq hdb]
    cases w.assets.find? (·.id == assetId) with
    | none => simp
    | some asset => simpa [hdb] using decisions_eq_iff w user asset
  · have hdry : dryRunDecision env user assetId w = none := by
      simp [dryRunDecision, evaluateTransfer, getAssetById, hdb]
    have hreal : transferDecision env user assetId w = none := by
      simp [transferDecision, prepare, getAssetById, hdb]
    simp [hdry, hreal, hdb]

/-- A manager who may transfer, next to an asset in the custody of another identity. -/
def foreignCustody : World :=
  { sampleWorld with
    identities := sampleWorld.identities ++
      [{ id := "manager"
         linkedUserId := some 2
         displayName := "Manager"
         status := .active
         did := "did:sampraan:manager"
         lifecycleState := .verified }]
    identityRoles := [{ identityId := "manager", roleName := "MANAGER" }]
    rolePermissions := [{ roleName := "MANAGER", permissionKey := "asset:transfer" }]
    assets :=
      [{ id := "row"
         assetId := "RADAR-1"
         classification := .controlled
         ownerIdentityId := "holder"
         custodianIdentityId := "holder"
         status := .active }] }

theorem not_dryRun_agrees : ∃ env user assetId w,
    dryRunDecision env user assetId w = some .allow ∧
      transferDecision env user assetId w = some .deny :=
  ⟨sampleEnvironment, { id := 2, isAdmin := false }, "row", foreignCustody, by rfl, by rfl⟩

end Sampraan.Assets
