import Sampraan.Backend.Environment

/-! The policy engine of `authorization.service.ts`. -/

namespace Sampraan.Assets

open Backend

inductive RiskLevel where
  | low
  | medium
  | high
  deriving DecidableEq

/-- `stepUpAuthenticated` and `approvalRequired` are the two fields of `context`. -/
structure AuthorizationRequest where
  identityStatus : String
  role : String
  permissions : List String
  resourceType : String
  action : String
  assetClassification : Option String
  actorIdentityId : Option String
  currentCustodianIdentityId : Option String
  approvalStatus : Option ApprovalStatus
  riskLevel : Option RiskLevel
  stepUpAuthenticated : Bool
  approvalRequired : Bool
  deriving DecidableEq

structure AuthorizationResult where
  decision : AuditDecision
  reason : String
  policyId : Option String
  deriving DecidableEq

def deny (reason : String) (policyId : Option String) : AuthorizationResult :=
  { decision := .deny, reason := reason, policyId := policyId }

def challenge (reason : String) (policyId : Option String) : AuthorizationResult :=
  { decision := .challenge, reason := reason, policyId := policyId }

def allow (reason : String) : AuthorizationResult :=
  { decision := .allow, reason := reason, policyId := none }

/-- Both ids are there and differ; an empty one counts as absent. -/
def notCustodian (request : AuthorizationRequest) : Bool :=
  request.actorIdentityId.getD "" != "" && request.currentCustodianIdentityId.getD "" != "" &&
    request.actorIdentityId != request.currentCustodianIdentityId

def evaluate (request : AuthorizationRequest) : AuthorizationResult :=
  let permission := toLowerCase request.resourceType ++ ":" ++ toLowerCase request.action
  let transfer := request.action = "TRANSFER"
  let highlySensitive := request.assetClassification = some "HIGHLY_SENSITIVE"
  if request.identityStatus ≠ "ACTIVE" then
    deny s!"Identity is {toLowerCase request.identityStatus}" none
  else if request.role ≠ "ADMIN" ∧ permission ∉ request.permissions ∧
      "administration:manage" ∉ request.permissions then
    deny s!"Role {request.role} does not hold {permission}" none
  else if transfer ∧ highlySensitive ∧ request.role = "USER" then
    deny "Role USER cannot TRANSFER HIGHLY_SENSITIVE asset" (some "POLICY-HIGH-SENS-TRANSFER")
  else if transfer ∧ highlySensitive ∧ !request.stepUpAuthenticated then
    challenge "Step-up authentication is required for highly sensitive transfers"
      (some "POLICY-STEP-UP")
  else if transfer ∧ request.role ≠ "ADMIN" ∧ notCustodian request then
    deny "Only the current custodian (or an administrator) may transfer this asset"
      (some "POLICY-CUSTODY")
  else if transfer ∧ request.approvalStatus = some .rejected then
    deny "The approval for this operation was rejected" (some "POLICY-APPROVAL-REJECTED")
  else if transfer ∧ request.approvalRequired ∧ request.approvalStatus ≠ some .approved then
    challenge "An approved approval is required for this operation" (some "POLICY-APPROVAL")
  else if request.riskLevel = some .high ∧ (transfer ∨ request.action = "CREATE_ASSET") ∧
      !request.stepUpAuthenticated then
    challenge "Advisory risk level is HIGH for this actor — additional verification required"
      (some "POLICY-RISK-ELEVATION")
  else allow "Identity, role, permission, resource, and policy checks passed"

/-- What an allowed transfer has: an ACTIVE identity, and an approval when one is required. -/
theorem evaluate_allow {request : AuthorizationRequest} (h : (evaluate request).decision = .allow) :
    request.identityStatus = "ACTIVE" ∧ (request.action = "TRANSFER" →
      request.approvalRequired = true → request.approvalStatus = some .approved) := by
  simp only [evaluate] at h
  split at h
  · cases h
  · rename_i hactive
    refine ⟨not_not.mp hactive, fun haction hrequired => ?_⟩
    by_contra happroval
    simp only [haction, hrequired, happroval, true_and, ne_eq, not_false_eq_true, and_self,
      if_true] at h
    repeat' split at h
    all_goals cases h

end Sampraan.Assets
