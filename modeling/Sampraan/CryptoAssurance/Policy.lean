import Sampraan.Backend.Environment

/-! `assurance-policy.ts`: how strongly an operation must be cryptographically proven. -/

namespace Sampraan.CryptoAssurance

open Backend

def algorithmByLevel : AssuranceLevel → List SignatureAlgorithm
  | .baseline => [.ecdsaSecp256k1]
  | .elevated => [.ecdsaSecp256k1]
  | .quantumHardened => [.ecdsaSecp256k1, .mlDsa65]

inductive RiskLevel where
  | low
  | medium
  | high
  | critical
  deriving DecidableEq

inductive CustodyRelation where
  | custodian
  | owner
  | nobody
  | adminOverride
  | notApplicable
  deriving DecidableEq

inductive ApprovalState where
  | notRequired
  | pending
  | approved
  | rejected
  | executed
  deriving DecidableEq

def administrativeOperations : List AssuranceOperation :=
  [.identityRoleChange, .identityRoleAdmin, .governanceConfig, .governanceProposal,
    .governanceApprove, .governanceExecute, .governanceCancel, .pauseRegistry, .unpauseRegistry]

def irreversibleOperations : List AssuranceOperation :=
  [.assetBurn, .assetForceTransfer, .identityStatusChange, .keyRecoveryExecute, .didKeyRevoke]

def quantumMandatedOperations : List AssuranceOperation :=
  [.assetBurn, .assetForceTransfer, .identityRoleAdmin, .governanceConfig, .identityStatusChange,
    .keyRecoveryExecute]

/-- Every operation has a weight of its own, so the fallback weight of the source never applies. -/
def operationWeight : AssuranceOperation → ℕ
  | .assetBurn => 60
  | .assetForceTransfer => 60
  | .keyRecoveryExecute => 55
  | .identityRoleAdmin => 55
  | .identityRoleChange => 45
  | .governanceConfig => 55
  | .governanceExecute => 45
  | .governanceProposal => 35
  | .governanceApprove => 35
  | .governanceCancel => 30
  | .didKeyRevoke => 45
  | .identityStatusChange => 45
  | .keyRecoveryApprove => 35
  | .keyRecoveryRequest => 30
  | .didKeyRotate => 30
  | .didDocumentUpdate => 25
  | .assetTransfer => 25
  | .assetAssign => 25
  | .assetMint => 25
  | .assetStatusChange => 30
  | .identityVerify => 20
  | .disputeResolve => 25
  | .auditReportCommit => 15
  | .pauseRegistry => 30
  | .unpauseRegistry => 30
  | .consentGrant => 10
  | .contentAccess => 20
  | .contentUpload => 15
  | .assetView => 5

def knownClassificationWeight : String → Option ℕ
  | "PUBLIC" => some 0
  | "CONTROLLED" => some 5
  | "SENSITIVE" => some 15
  | "HIGHLY_SENSITIVE" => some 30
  | "CRITICAL" => some 45
  | _ => none

def knownRiskWeight : RiskLevel → ℕ
  | .low => 0
  | .medium => 10
  | .high => 25
  | .critical => 40

def elevatedThreshold : ℕ := 40

def quantumThreshold : ℕ := 70

/-- A policy input without its operation and role. -/
structure PolicyContext where
  assetClassification : Option String
  riskLevel : Option RiskLevel
  riskScore : Option ℤ
  custodyRelation : Option CustodyRelation
  approvalStatus : Option ApprovalState
  stepUpSatisfied : Bool
  deriving DecidableEq

structure AssurancePolicyInput extends PolicyContext where
  operation : AssuranceOperation
  role : String
  deriving DecidableEq

structure AssurancePolicyResult where
  level : AssuranceLevel
  algorithms : List SignatureAlgorithm
  requiresDualSignature : Bool
  requiresStepUp : Bool
  score : ℕ
  reasonCodes : List AssuranceReasonCode
  explanation : String
  deriving DecidableEq

abbrev Weighted := ℕ × List AssuranceReasonCode

def reasonIf (p : Prop) [Decidable p] (code : AssuranceReasonCode) : List AssuranceReasonCode :=
  if p then [code] else []

def weighIf (p : Prop) [Decidable p] (weight : ℕ) (code : AssuranceReasonCode) : Weighted :=
  if p then (weight, [code]) else (0, [])

def classificationWeight : Option String → Weighted
  | none => (0, [])
  | some "" => (0, [])
  | some classification =>
    match knownClassificationWeight classification with
    | none => (45, [.classificationUnknown])
    | some weight =>
      (weight,
        reasonIf (classification = "HIGHLY_SENSITIVE") .classificationHighlySensitive ++
          reasonIf (classification = "CRITICAL") .classificationCritical)

def riskWeight (input : AssurancePolicyInput) : Weighted :=
  let level := input.riskLevel.getD .low
  let score := match input.riskScore with
    | some riskScore => max 0 (min 100 riskScore)
    | none => 0
  (knownRiskWeight level + (if 75 ≤ score then 10 else if 50 ≤ score then 5 else 0),
    reasonIf (level = .medium) .riskMedium ++ reasonIf (level = .high) .riskHigh ++
      reasonIf (level = .critical) .riskCritical)

def roleWeight (role : String) : Weighted :=
  let admin := weighIf (role = "ADMIN") 10 .roleAdminBlastRadius
  let auditor := weighIf (role = "AUDITOR") 15 .roleAuditorReadOnly
  (admin.1 + auditor.1, admin.2 ++ auditor.2)

def custodyWeight (custody : CustodyRelation) : Weighted :=
  let mismatch := weighIf (custody = .nobody) 15 .custodyMismatch
  let owner := weighIf (custody = .owner) 5 .custodyNotCustodian
  (mismatch.1 + owner.1, mismatch.2 ++ owner.2)

def approvalWeight (approval : ApprovalState) : Weighted :=
  let missing := weighIf (approval = .pending) 10 .approvalMissing
  let rejected := weighIf (approval = .rejected) 20 .approvalRejected
  (missing.1 + rejected.1, missing.2 ++ rejected.2)

def stepUpWeight (input : AssurancePolicyInput) : Weighted :=
  weighIf (input.stepUpSatisfied = false ∧
    (25 ≤ operationWeight input.operation ∨ input.operation ∈ irreversibleOperations))
    15 .stepUpNotSatisfied

def assuranceScore (input : AssurancePolicyInput) : ℕ :=
  operationWeight input.operation + (classificationWeight input.assetClassification).1 +
    (riskWeight input).1 + (roleWeight (toUpperCase input.role)).1 +
    (custodyWeight (input.custodyRelation.getD .notApplicable)).1 +
    (approvalWeight (input.approvalStatus.getD .notRequired)).1 + (stepUpWeight input).1

def elevatedFloor (operation : AssuranceOperation) : Prop :=
  operation ∈ irreversibleOperations ∨ operation ∈ administrativeOperations

instance (operation : AssuranceOperation) : Decidable (elevatedFloor operation) :=
  inferInstanceAs (Decidable (_ ∨ _))

def quantumMandated (input : AssurancePolicyInput) : Prop :=
  quantumThreshold ≤ assuranceScore input ∨ input.operation ∈ quantumMandatedOperations ∨
    input.riskLevel = some .critical ∨
    (input.operation ∈ irreversibleOperations ∧
      (input.assetClassification = some "CRITICAL" ∨ toUpperCase input.role = "ADMIN"))

instance (input : AssurancePolicyInput) : Decidable (quantumMandated input) :=
  inferInstanceAs (Decidable (_ ∨ _ ∨ _ ∨ (_ ∧ _)))

def assuranceReasons (input : AssurancePolicyInput) : List AssuranceReasonCode :=
  (if operationWeight input.operation ≤ 20 then [.opBaseline] else [.opElevatedRisk]) ++
    reasonIf (input.operation ∈ administrativeOperations) .opAdministrative ++
    reasonIf (input.operation ∈ irreversibleOperations) .opIrreversible ++
    (classificationWeight input.assetClassification).2 ++ (riskWeight input).2 ++
    (roleWeight (toUpperCase input.role)).2 ++
    (custodyWeight (input.custodyRelation.getD .notApplicable)).2 ++
    (approvalWeight (input.approvalStatus.getD .notRequired)).2 ++ (stepUpWeight input).2 ++
    reasonIf (quantumMandated input) .pqcPolicyMandated ++
    reasonIf (elevatedFloor input.operation) .platformFloor

def assuranceLevel (input : AssurancePolicyInput) : AssuranceLevel :=
  if quantumMandated input then .quantumHardened
  else if elevatedThreshold ≤ assuranceScore input ∨ elevatedFloor input.operation then .elevated
  else .baseline

def explain (score : ℕ) : AssuranceLevel → String
  | .quantumHardened =>
    s!"Score {score} with mandatory post-quantum floor: ECDSA (secp256k1) AND ML-DSA-65 " ++
      "signatures are required over one canonical payload."
  | .elevated =>
    s!"Score {score}: a server-verified step-up for this exact operation is required on top " ++
      "of the session-bound ECDSA signature."
  | .baseline => s!"Score {score}: the session-bound ECDSA signature is sufficient."

def evaluateAssurance (input : AssurancePolicyInput) : AssurancePolicyResult :=
  let level := assuranceLevel input
  { level := level
    algorithms := algorithmByLevel level
    requiresDualSignature := (algorithmByLevel level).contains .mlDsa65
    requiresStepUp := level ≠ .baseline
    score := assuranceScore input
    reasonCodes := assuranceReasons input
    explanation := explain (assuranceScore input) level }

def governanceKindToOperation : GovernanceKind → AssuranceOperation
  | .burnNft => .assetBurn
  | .forceTransfer => .assetForceTransfer
  | .pauseRegistry => .pauseRegistry
  | .unpauseRegistry => .unpauseRegistry
  | .grantRole => .identityRoleAdmin
  | .revokeRole => .identityRoleAdmin
  | .deactivateIdentity => .identityStatusChange

def governanceKindsWithAssetTarget : List GovernanceKind := [.burnNft, .forceTransfer]

/-! ### What the level says -/

theorem mlDsa65_mem_algorithmByLevel {level : AssuranceLevel} :
    .mlDsa65 ∈ algorithmByLevel level ↔ level = .quantumHardened := by
  cases level <;> simp [algorithmByLevel]

theorem ecdsa_mem_algorithmByLevel (level : AssuranceLevel) :
    .ecdsaSecp256k1 ∈ algorithmByLevel level := by
  cases level <;> simp [algorithmByLevel]

variable {input : AssurancePolicyInput}

theorem assuranceLevel_eq_quantumHardened :
    assuranceLevel input = .quantumHardened ↔ quantumMandated input := by
  unfold assuranceLevel
  split
  · simpa
  · split <;> simpa

@[simp] theorem evaluateAssurance_level : (evaluateAssurance input).level = assuranceLevel input := rfl

theorem requiresDualSignature_iff :
    (evaluateAssurance input).requiresDualSignature = true ↔ quantumMandated input := by
  simp only [evaluateAssurance, List.contains_iff_mem, mlDsa65_mem_algorithmByLevel,
    assuranceLevel_eq_quantumHardened]

theorem quantumMandated_of_mem (h : input.operation ∈ quantumMandatedOperations) :
    quantumMandated input :=
  .inr (.inl h)

end Sampraan.CryptoAssurance
