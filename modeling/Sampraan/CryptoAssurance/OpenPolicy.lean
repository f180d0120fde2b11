import Sampraan.CryptoAssurance.PayloadText

/-!
`assurance-policy.ts` on the texts that its types do not stop: an operation or a risk level that
is no member of the union, and any number as the advisory score.
-/

namespace Sampraan.CryptoAssurance

open Backend

def RiskLevel.label : RiskLevel → String
  | .low => "LOW"
  | .medium => "MEDIUM"
  | .high => "HIGH"
  | .critical => "CRITICAL"

def assuranceOperations : List AssuranceOperation :=
  [.assetView, .contentAccess, .contentUpload, .assetMint, .assetAssign, .assetTransfer,
    .assetForceTransfer, .assetBurn, .assetStatusChange, .identityVerify, .identityStatusChange,
    .identityRoleChange, .identityRoleAdmin, .didDocumentUpdate, .didKeyRotate, .didKeyRevoke,
    .keyRecoveryRequest, .keyRecoveryApprove, .keyRecoveryExecute, .governanceProposal,
    .governanceApprove, .governanceExecute, .governanceCancel, .governanceConfig, .pauseRegistry,
    .unpauseRegistry, .disputeResolve, .auditReportCommit, .consentGrant]

def riskLevels : List RiskLevel := [.low, .medium, .high, .critical]

namespace Untyped

/-! ### Numbers and sums of the language -/

inductive Number where
  | finite (q : ℚ)
  | infinity
  | minusInfinity
  | nan
  deriving DecidableEq

instance : LE Number where
  le
    | .nan, _ => False
    | _, .nan => False
    | .minusInfinity, _ => True
    | _, .infinity => True
    | .finite p, .finite q => p ≤ q
    | _, .finite _ => False
    | _, .minusInfinity => False

/-- What `+=` has made of the score: a number, or a text once a text has been added. -/
inductive Amount where
  | number (n : ℕ)
  | text (s : String)
  deriving DecidableEq

namespace Amount

def render : Amount → String
  | .number n => toString n
  | .text s => s

instance : Add Amount where
  add
    | .number m, .number n => .number (m + n)
    | a, b => .text (a.render ++ b.render)

/-- A branch of the source that is not taken adds nothing, not even a zero to a text. -/
def addBranch (a : Amount) : ℕ → Amount
  | 0 => a
  | w + 1 => a + .number (w + 1)

/-- `bound <= amount`: none of the texts below reads as a number, so each compares false. -/
def AtLeast (bound : ℕ) : Amount → Prop
  | .number n => bound ≤ n
  | .text _ => False

def AtMost (bound : ℕ) : Amount → Prop
  | .number n => n ≤ bound
  | .text _ => False

instance (bound : ℕ) (a : Amount) : Decidable (a.AtLeast bound) :=
  match a with
  | .number n => inferInstanceAs (Decidable (bound ≤ n))
  | .text _ => inferInstanceAs (Decidable False)

instance (bound : ℕ) (a : Amount) : Decidable (a.AtMost bound) :=
  match a with
  | .number n => inferInstanceAs (Decidable (n ≤ bound))
  | .text _ => inferInstanceAs (Decidable False)

@[simp] theorem number_add (m n : ℕ) : number m + number n = number (m + n) := rfl

theorem add_text (a : Amount) (s : String) : ∃ t, a + text s = text t := by
  cases a <;> exact ⟨_, rfl⟩

theorem text_add (s : String) (a : Amount) : ∃ t, text s + a = text t := by
  cases a <;> exact ⟨_, rfl⟩

@[simp] theorem number_addBranch (n w : ℕ) : (number n).addBranch w = number (n + w) := by
  cases w <;> rfl

theorem text_addBranch (s : String) (w : ℕ) : ∃ t, (text s).addBranch w = text t := by
  cases w <;> exact ⟨_, rfl⟩

@[simp] theorem atLeast_number {bound n : ℕ} : (number n).AtLeast bound ↔ bound ≤ n := Iff.rfl

@[simp] theorem not_atLeast_text {bound : ℕ} {s : String} : ¬ (text s).AtLeast bound := id

end Amount

/-! ### The weight tables -/

/-- What every object literal inherits. -/
def inheritedNames : List String :=
  ["constructor", "__defineGetter__", "__defineSetter__", "hasOwnProperty", "__lookupGetter__",
    "__lookupSetter__", "isPrototypeOf", "propertyIsEnumerable", "toString", "valueOf",
    "__proto__", "toLocaleString"]

def inheritedText (name : String) : String :=
  if name = "__proto__" then "[object Object]"
  else
    let function := if name = "constructor" then "Object" else name
    "function " ++ function ++ "() \x7b [native code] \x7d"

/-- `TABLE[name] ?? worst`: the index also finds what the table inherits. -/
def lookUp (table : String → Option ℕ) (worst : ℕ) (name : String) : Amount :=
  match table name with
  | some weight => .number weight
  | none => if name ∈ inheritedNames then .text (inheritedText name) else .number worst

def knownOperationWeight (name : String) : Option ℕ :=
  (assuranceOperations.find? fun operation => operation.label = name).map
    CryptoAssurance.operationWeight

def knownRiskWeight (name : String) : Option ℕ :=
  (riskLevels.find? fun level => level.label = name).map CryptoAssurance.knownRiskWeight

def operationWeight : String → Amount := lookUp knownOperationWeight 60

/-! ### The policy -/

structure AssurancePolicyInput where
  operation : String
  role : String
  assetClassification : Option String
  riskLevel : Option String
  riskScore : Option Number
  custodyRelation : Option CustodyRelation
  approvalStatus : Option ApprovalState
  stepUpSatisfied : Bool
  deriving DecidableEq

structure AssurancePolicyResult where
  level : AssuranceLevel
  algorithms : List SignatureAlgorithm
  requiresDualSignature : Bool
  requiresStepUp : Bool
  score : Amount
  reasonCodes : List AssuranceReasonCode
  explanation : String
  deriving DecidableEq

def Administrative (operation : String) : Prop :=
  operation ∈ administrativeOperations.map AssuranceOperation.label

def Irreversible (operation : String) : Prop :=
  operation ∈ irreversibleOperations.map AssuranceOperation.label

/-- On the list of operations for which a post-quantum signature is mandated. -/
def QuantumListed (operation : String) : Prop :=
  operation ∈ quantumMandatedOperations.map AssuranceOperation.label

instance (operation : String) : Decidable (Administrative operation) :=
  inferInstanceAs (Decidable (_ ∈ _))

instance (operation : String) : Decidable (Irreversible operation) :=
  inferInstanceAs (Decidable (_ ∈ _))

instance (operation : String) : Decidable (QuantumListed operation) :=
  inferInstanceAs (Decidable (_ ∈ _))

/-- The points an advisory score adds: none when it is not a finite number. -/
def band (riskScore : Option Number) : ℕ :=
  let score := match riskScore with
    | some (.finite q) => max 0 (min 100 q)
    | _ => 0
  if 75 ≤ score then 10 else if 50 ≤ score then 5 else 0

def riskWeight (input : AssurancePolicyInput) : Amount × List AssuranceReasonCode :=
  let level := input.riskLevel.getD "LOW"
  (lookUp knownRiskWeight 40 level + .number (band input.riskScore),
    reasonIf (level = "MEDIUM") .riskMedium ++ reasonIf (level = "HIGH") .riskHigh ++
      reasonIf (level = "CRITICAL") .riskCritical)

def stepUpWeight (input : AssurancePolicyInput) : Weighted :=
  weighIf (input.stepUpSatisfied = false ∧
    ((operationWeight input.operation).AtLeast 25 ∨ Irreversible input.operation))
    15 .stepUpNotSatisfied

def assuranceScore (input : AssurancePolicyInput) : Amount :=
  let score := .number 0 + operationWeight input.operation +
    .number (classificationWeight input.assetClassification).1 + (riskWeight input).1
  (((score.addBranch (roleWeight (toUpperCase input.role)).1).addBranch
    (custodyWeight (input.custodyRelation.getD .notApplicable)).1).addBranch
    (approvalWeight (input.approvalStatus.getD .notRequired)).1).addBranch (stepUpWeight input).1

def ElevatedFloor (operation : String) : Prop :=
  Irreversible operation ∨ Administrative operation

instance (operation : String) : Decidable (ElevatedFloor operation) :=
  inferInstanceAs (Decidable (_ ∨ _))

def QuantumMandated (input : AssurancePolicyInput) : Prop :=
  (assuranceScore input).AtLeast quantumThreshold ∨ QuantumListed input.operation ∨
    input.riskLevel = some "CRITICAL" ∨
    (Irreversible input.operation ∧
      (input.assetClassification = some "CRITICAL" ∨ toUpperCase input.role = "ADMIN"))

instance (input : AssurancePolicyInput) : Decidable (QuantumMandated input) :=
  inferInstanceAs (Decidable (_ ∨ _ ∨ _ ∨ (_ ∧ _)))

def assuranceReasons (input : AssurancePolicyInput) : List AssuranceReasonCode :=
  (if (operationWeight input.operation).AtMost 20 then [.opBaseline] else [.opElevatedRisk]) ++
    reasonIf (Administrative input.operation) .opAdministrative ++
    reasonIf (Irreversible input.operation) .opIrreversible ++
    (classificationWeight input.assetClassification).2 ++ (riskWeight input).2 ++
    (roleWeight (toUpperCase input.role)).2 ++
    (custodyWeight (input.custodyRelation.getD .notApplicable)).2 ++
    (approvalWeight (input.approvalStatus.getD .notRequired)).2 ++ (stepUpWeight input).2 ++
    reasonIf (QuantumMandated input) .pqcPolicyMandated ++
    reasonIf (ElevatedFloor input.operation) .platformFloor

def assuranceLevel (input : AssurancePolicyInput) : AssuranceLevel :=
  if QuantumMandated input then .quantumHardened
  else if (assuranceScore input).AtLeast elevatedThreshold ∨ ElevatedFloor input.operation then
    .elevated
  else .baseline

def explain (score : String) : AssuranceLevel → String
  | .quantumHardened =>
    s!"Score {score} with mandatory post-quantum floor: ECDSA (secp256k1) AND ML-DSA-65 " ++
      "signatures are required over one canonical payload."
  | .elevated =>
    s!"Score {score}: a server-verified step-up for this exact operation is required on top " ++
      "of the session-bound ECDSA signature."
  | .baseline => s!"Score {score}: the session-bound ECDSA signature is sufficient."

def evaluateAssurance (input : AssurancePolicyInput) : AssurancePolicyResult :=
  let level := assuranceLevel input
  { level := level
    algorithms := algorithmByLevel level
    requiresDualSignature := (algorithmByLevel level).contains .mlDsa65
    requiresStepUp := level ≠ .baseline
    score := assuranceScore input
    reasonCodes := assuranceReasons input
    explanation := explain (assuranceScore input).render level }

/-! ### The score in points -/

variable {name : String} {operation : AssuranceOperation} {input : AssurancePolicyInput}

theorem lookUp_eq_number {table : String → Option ℕ} {worst : ℕ} (h : name ∉ inheritedNames) :
    lookUp table worst name = .number ((table name).getD worst) := by
  unfold lookUp
  cases table name with
  | some weight => rfl
  | none => exact if_neg h

theorem lookUp_eq_text {table : String → Option ℕ} {worst : ℕ} (h : name ∈ inheritedNames)
    (hown : table name = none) : lookUp table worst name = .text (inheritedText name) := by
  unfold lookUp
  rw [hown]
  exact if_pos h

theorem knownOperationWeight_inherited (h : name ∈ inheritedNames) :
    knownOperationWeight name = none := by
  have hall : ∀ name ∈ inheritedNames, knownOperationWeight name = none := by decide
  exact hall name h

theorem knownRiskWeight_inherited (h : name ∈ inheritedNames) : knownRiskWeight name = none := by
  have hall : ∀ name ∈ inheritedNames, knownRiskWeight name = none := by decide
  exact hall name h

def operationPoints (operation : String) : ℕ := (knownOperationWeight operation).getD 60

def riskPoints (level : String) : ℕ := (knownRiskWeight level).getD 40

/-- What the actor's role, the custody and the approval add. -/
def standing (input : AssurancePolicyInput) : ℕ :=
  (roleWeight (toUpperCase input.role)).1 +
    (custodyWeight (input.custodyRelation.getD .notApplicable)).1 +
    (approvalWeight (input.approvalStatus.getD .notRequired)).1

def points (input : AssurancePolicyInput) : ℕ :=
  operationPoints input.operation + (classificationWeight input.assetClassification).1 +
    riskPoints (input.riskLevel.getD "LOW") + band input.riskScore + standing input +
    (stepUpWeight input).1

/-- No table is asked for a property that it inherits. -/
def Numeric (input : AssurancePolicyInput) : Prop :=
  input.operation ∉ inheritedNames ∧ input.riskLevel.getD "LOW" ∉ inheritedNames

instance (input : AssurancePolicyInput) : Decidable (Numeric input) :=
  inferInstanceAs (Decidable (_ ∧ _))

theorem assuranceScore_eq (h : Numeric input) : assuranceScore input = .number (points input) := by
  have hop : operationWeight input.operation = .number (operationPoints input.operation) :=
    lookUp_eq_number h.1
  have hrisk : lookUp knownRiskWeight 40 (input.riskLevel.getD "LOW") =
      .number (riskPoints (input.riskLevel.getD "LOW")) := lookUp_eq_number h.2
  simp only [assuranceScore, riskWeight, hop, hrisk, Amount.number_add, Amount.number_addBranch,
    points, standing, Amount.number.injEq]
  omega

theorem exists_text (h : ¬ Numeric input) : ∃ t, assuranceScore input = .text t := by
  have hscore : ∃ t, Amount.number 0 + operationWeight input.operation +
      .number (classificationWeight input.assetClassification).1 + (riskWeight input).1 =
        .text t := by
    by_cases hop : input.operation ∈ inheritedNames
    · have htext : operationWeight input.operation = .text (inheritedText input.operation) :=
        lookUp_eq_text hop (knownOperationWeight_inherited hop)
      obtain ⟨t, ht⟩ := Amount.add_text (.number 0) (inheritedText input.operation)
      obtain ⟨u, hu⟩ :=
        Amount.text_add t (.number (classificationWeight input.assetClassification).1)
      rw [htext, ht, hu]
      exact Amount.text_add u _
    · have hrisk : input.riskLevel.getD "LOW" ∈ inheritedNames := by
        by_contra hrisk
        exact h ⟨hop, hrisk⟩
      have htext : lookUp knownRiskWeight 40 (input.riskLevel.getD "LOW") =
          .text (inheritedText (input.riskLevel.getD "LOW")) :=
        lookUp_eq_text hrisk (knownRiskWeight_inherited hrisk)
      simp only [riskWeight, htext]
      obtain ⟨t, ht⟩ := Amount.text_add (inheritedText (input.riskLevel.getD "LOW"))
        (.number (band input.riskScore))
      rw [ht]
      exact Amount.add_text _ t
  obtain ⟨t, ht⟩ := hscore
  simp only [assuranceScore, ht]
  obtain ⟨u, hu⟩ := Amount.text_addBranch t (roleWeight (toUpperCase input.role)).1
  obtain ⟨v, hv⟩ := Amount.text_addBranch u
    (custodyWeight (input.custodyRelation.getD .notApplicable)).1
  obtain ⟨w, hw⟩ := Amount.text_addBranch v
    (approvalWeight (input.approvalStatus.getD .notRequired)).1
  rw [hu, hv, hw]
  exact Amount.text_addBranch w _

theorem atLeast_assuranceScore {bound : ℕ} :
    (assuranceScore input).AtLeast bound ↔ Numeric input ∧ bound ≤ points input := by
  by_cases h : Numeric input
  · rw [assuranceScore_eq h, Amount.atLeast_number]
    exact (and_iff_right h).symm
  · obtain ⟨t, ht⟩ := exists_text h
    rw [ht]
    exact ⟨False.elim, fun hboth => h hboth.1⟩

/-! ### The members of the unions -/

@[simp] theorem knownOperationWeight_label :
    knownOperationWeight operation.label = some (CryptoAssurance.operationWeight operation) := by
  cases operation <;> rfl

@[simp] theorem knownRiskWeight_label (level : RiskLevel) :
    knownRiskWeight level.label = some (CryptoAssurance.knownRiskWeight level) := by
  cases level <;> rfl

theorem riskLabel_notMem_inheritedNames (level : RiskLevel) : level.label ∉ inheritedNames := by
  intro h
  have hnone := knownRiskWeight_inherited h
  rw [knownRiskWeight_label] at hnone
  cases hnone

theorem label_mem_map {operations : List AssuranceOperation} :
    operation.label ∈ operations.map AssuranceOperation.label ↔ operation ∈ operations :=
  List.mem_map_of_injective operation_label_injective

@[simp] theorem administrative_label :
    Administrative operation.label ↔ operation ∈ administrativeOperations := label_mem_map

@[simp] theorem irreversible_label :
    Irreversible operation.label ↔ operation ∈ irreversibleOperations := label_mem_map

@[simp] theorem quantumListed_label :
    QuantumListed operation.label ↔ operation ∈ quantumMandatedOperations := label_mem_map

@[simp] theorem elevatedFloor_label :
    ElevatedFloor operation.label ↔ elevatedFloor operation :=
  or_congr irreversible_label administrative_label

/-- The same request, with its members written out. -/
def ofTyped (input : CryptoAssurance.AssurancePolicyInput) : AssurancePolicyInput :=
  { operation := input.operation.label
    role := input.role
    assetClassification := input.assetClassification
    riskLevel := input.riskLevel.map RiskLevel.label
    riskScore := input.riskScore.map fun z : ℤ => .finite (z : ℚ)
    custodyRelation := input.custodyRelation
    approvalStatus := input.approvalStatus
    stepUpSatisfied := input.stepUpSatisfied }

def ofTypedResult (result : CryptoAssurance.AssurancePolicyResult) : AssurancePolicyResult :=
  { level := result.level
    algorithms := result.algorithms
    requiresDualSignature := result.requiresDualSignature
    requiresStepUp := result.requiresStepUp
    score := .number result.score
    reasonCodes := result.reasonCodes
    explanation := result.explanation }

theorem reasonIf_congr {p q : Prop} [Decidable p] [Decidable q] (h : p ↔ q)
    (code : AssuranceReasonCode) : reasonIf p code = reasonIf q code :=
  if_congr h rfl rfl

theorem weighIf_congr {p q : Prop} [Decidable p] [Decidable q] (h : p ↔ q) (weight : ℕ)
    (code : AssuranceReasonCode) : weighIf p weight code = weighIf q weight code :=
  if_congr h rfl rfl

theorem riskLabel_injective : Function.Injective RiskLevel.label := by
  apply label_injective riskLevels
  intro level
  cases level <;> rfl

section Typed

variable {typed : CryptoAssurance.AssurancePolicyInput}

theorem operationWeight_label :
    operationWeight operation.label = .number (CryptoAssurance.operationWeight operation) := by
  simp only [operationWeight, lookUp, knownOperationWeight_label]

theorem riskLevel_ofTyped :
    (ofTyped typed).riskLevel.getD "LOW" = (typed.riskLevel.getD .low).label := by
  unfold ofTyped
  cases typed.riskLevel <;> rfl

theorem band_ofTyped :
    band (ofTyped typed).riskScore =
      (let score := match typed.riskScore with
        | some riskScore => max 0 (min 100 riskScore)
        | none => 0
       if 75 ≤ score then 10 else if 50 ≤ score then 5 else 0) := by
  unfold ofTyped
  cases typed.riskScore with
  | none => rfl
  | some z =>
    have hcast : max 0 (min 100 (z : ℚ)) = ((max 0 (min 100 z) : ℤ) : ℚ) := by push_cast; rfl
    have hhigh : 75 ≤ max 0 (min 100 (z : ℚ)) ↔ 75 ≤ max 0 (min 100 z) := by
      rw [hcast]
      norm_cast
    have hmiddle : 50 ≤ max 0 (min 100 (z : ℚ)) ↔ 50 ≤ max 0 (min 100 z) := by
      rw [hcast]
      norm_cast
    exact if_congr hhigh rfl (if_congr hmiddle rfl rfl)

theorem riskWeight_ofTyped :
    riskWeight (ofTyped typed) =
      (.number (CryptoAssurance.riskWeight typed).1, (CryptoAssurance.riskWeight typed).2) := by
  have hmedium : (typed.riskLevel.getD .low).label = "MEDIUM" ↔
      typed.riskLevel.getD .low = .medium := riskLabel_injective.eq_iff (b := .medium)
  have hhigh : (typed.riskLevel.getD .low).label = "HIGH" ↔
      typed.riskLevel.getD .low = .high := riskLabel_injective.eq_iff (b := .high)
  have hcritical : (typed.riskLevel.getD .low).label = "CRITICAL" ↔
      typed.riskLevel.getD .low = .critical := riskLabel_injective.eq_iff (b := .critical)
  have hreasons : (riskWeight (ofTyped typed)).2 = (CryptoAssurance.riskWeight typed).2 := by
    simp only [riskWeight, CryptoAssurance.riskWeight, riskLevel_ofTyped]
    rw [reasonIf_congr hmedium, reasonIf_congr hhigh, reasonIf_congr hcritical]
  have hweight : (riskWeight (ofTyped typed)).1 = .number (CryptoAssurance.riskWeight typed).1 := by
    simp only [riskWeight, riskLevel_ofTyped, band_ofTyped, lookUp, knownRiskWeight_label,
      Amount.number_add]
    rfl
  exact Prod.ext hweight hreasons

theorem stepUpWeight_ofTyped :
    stepUpWeight (ofTyped typed) = CryptoAssurance.stepUpWeight typed := by
  apply weighIf_congr
  have hweight : operationWeight (ofTyped typed).operation =
      .number (CryptoAssurance.operationWeight typed.operation) := operationWeight_label
  rw [hweight, Amount.atLeast_number]
  exact and_congr Iff.rfl (or_congr Iff.rfl irreversible_label)

theorem assuranceScore_ofTyped :
    assuranceScore (ofTyped typed) = .number (CryptoAssurance.assuranceScore typed) := by
  have hweight : operationWeight (ofTyped typed).operation =
      .number (CryptoAssurance.operationWeight typed.operation) := operationWeight_label
  simp only [assuranceScore, hweight, riskWeight_ofTyped, stepUpWeight_ofTyped, Amount.number_add,
    Amount.number_addBranch, CryptoAssurance.assuranceScore, Amount.number.injEq, Nat.zero_add]
  rfl

theorem quantumMandated_ofTyped : QuantumMandated (ofTyped typed) ↔ quantumMandated typed := by
  have hcritical : (ofTyped typed).riskLevel = some "CRITICAL" ↔
      typed.riskLevel = some .critical :=
    (Option.map_injective riskLabel_injective).eq_iff (b := some .critical)
  rw [QuantumMandated, assuranceScore_ofTyped, hcritical]
  exact or_congr Iff.rfl (or_congr quantumListed_label (or_congr Iff.rfl
    (and_congr irreversible_label Iff.rfl)))

theorem assuranceLevel_ofTyped :
    assuranceLevel (ofTyped typed) = CryptoAssurance.assuranceLevel typed := by
  rw [assuranceLevel, assuranceScore_ofTyped]
  exact if_congr quantumMandated_ofTyped rfl
    (if_congr (or_congr Iff.rfl elevatedFloor_label) rfl rfl)

theorem explain_toString (score : ℕ) (level : AssuranceLevel) :
    explain (toString score) level = CryptoAssurance.explain score level := by
  cases level <;> rfl

theorem assuranceReasons_ofTyped :
    assuranceReasons (ofTyped typed) = CryptoAssurance.assuranceReasons typed := by
  have hweight : operationWeight (ofTyped typed).operation =
      .number (CryptoAssurance.operationWeight typed.operation) := operationWeight_label
  have hadministrative : Administrative (ofTyped typed).operation ↔
      typed.operation ∈ administrativeOperations := administrative_label
  have hirreversible : Irreversible (ofTyped typed).operation ↔
      typed.operation ∈ irreversibleOperations := irreversible_label
  have hfloor : ElevatedFloor (ofTyped typed).operation ↔ elevatedFloor typed.operation :=
    elevatedFloor_label
  rw [assuranceReasons, CryptoAssurance.assuranceReasons, hweight, riskWeight_ofTyped,
    stepUpWeight_ofTyped, reasonIf_congr hadministrative, reasonIf_congr hirreversible,
    reasonIf_congr hfloor, reasonIf_congr quantumMandated_ofTyped]
  rfl

/-- On what the types admit the two readings agree. -/
theorem evaluateAssurance_ofTyped :
    evaluateAssurance (ofTyped typed) = ofTypedResult (CryptoAssurance.evaluateAssurance typed) := by
  simp only [evaluateAssurance, CryptoAssurance.evaluateAssurance, ofTypedResult,
    assuranceLevel_ofTyped, assuranceScore_ofTyped, assuranceReasons_ofTyped, Amount.render,
    explain_toString]

end Typed

end Untyped

end Sampraan.CryptoAssurance
