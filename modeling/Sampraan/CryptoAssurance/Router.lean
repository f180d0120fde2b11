import Sampraan.CryptoAssurance.Service

/-! `assurance.router.ts`: the procedures that issue and verify a challenge. -/

namespace Sampraan.CryptoAssurance

open Backend Library

variable (env : Environment)

structure Actor where
  identity : IdentityRow
  roles : List String
  deriving DecidableEq

/-- Identity and roles come from the session; the life cycle is left to the service. -/
def requireActor (user : Option ℕ) : Promise Actor := do
  match user with
  | none => throw (.trpc .unauthorized "Authentication required")
  | some id => do
    match ← getIdentityByLinkedUserId env id with
    | none => throw (.trpc .forbidden "No SAMPRAAN identity is linked to this session")
    | some identity => do
      let roles ← getIdentityRoles env identity.id
      pure { identity := identity, roles := roles }

structure ChallengeInput where
  operation : AssuranceOperation
  resourceType : String
  resourceId : String
  assetClassification : Option AssetClassification
  riskLevel : Option RiskLevel
  riskScore : Option ℤ
  custodyRelation : Option CustodyRelation
  approvalStatus : Option ApprovalState
  challengeId : String
  nonce : String
  deriving DecidableEq

def ChallengeInput.policyInput (input : ChallengeInput) : PolicyContext where
  assetClassification := input.assetClassification.map AssetClassification.label
  riskLevel := input.riskLevel
  riskScore := input.riskScore
  custodyRelation := input.custodyRelation
  approvalStatus := input.approvalStatus
  stepUpSatisfied := false

def ChallengeInput.issue (input : ChallengeInput) (actor : Actor) : IssueAssuranceInput where
  identityId := actor.identity.id
  did := actor.identity.did
  identityStatus := actor.identity.status
  lifecycleState := actor.identity.lifecycleState
  role := actor.roles.headD "USER"
  operation := input.operation
  resourceType := input.resourceType
  resourceId := input.resourceId
  policyInput := input.policyInput
  challengeId := input.challengeId
  nonce := input.nonce

def challenge (user : Option ℕ) (input : ChallengeInput) : Promise IssueAssuranceResult := do
  let actor ← requireActor env user
  match ← issueAssuranceChallenge env (input.issue actor) with
  | .failed code reason => throw (.trpc .preconditionFailed s!"{code}: {reason}")
  | result => pure result

structure VerifyInput where
  nonce : String
  ecdsaSignature : String
  pqcSignature : Option String
  deriving DecidableEq

def verify (user : Option ℕ) (input : VerifyInput) : Promise VerifyAssuranceResult := do
  let actor ← requireActor env user
  let operatorKey := env.process.blockchainPrivateKey.getD ""
  if operatorKey = "" then
    throw (.trpc .preconditionFailed
      ("Blockchain operator key is not configured — DID signature verification is unavailable"))
  else do
    let result ← verifyAssuranceChallenge env
      { identityId := actor.identity.id
        nonce := input.nonce
        ecdsaSignature := input.ecdsaSignature
        pqcSignature := input.pqcSignature
        operatorKey := operatorKey }
    match result with
    | .failed code reason => throw (.trpc .preconditionFailed s!"{code}: {reason}")
    | result => pure result

end Sampraan.CryptoAssurance
