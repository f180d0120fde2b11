import Sampraan.CryptoAssurance.OpenPolicy

/-! Which changes of a policy input keep the level from falling. -/

namespace Sampraan.CryptoAssurance.Untyped

open Backend

def rank : AssuranceLevel → ℕ
  | .baseline => 0
  | .elevated => 1
  | .quantumHardened => 2

def classificationSeverity : AssetClassification → ℕ
  | .publicAsset => 0
  | .controlled => 1
  | .sensitive => 2
  | .highlySensitive => 3
  | .critical => 4

def riskSeverity : RiskLevel → ℕ
  | .low => 0
  | .medium => 1
  | .high => 2
  | .critical => 3

def level (input : AssurancePolicyInput) : ℕ := rank (evaluateAssurance input).level

/-- One position of an input made worse. -/
inductive Change where
  | unknownOperation (name : String)
  | unknownClassification (name : String)
  | unknownRisk (name : String)
  | raiseScore (lower higher : Number)
  | raiseClassification (lower higher : AssetClassification)
  | raiseRisk (lower higher : RiskLevel)
  | withdrawStepUp

namespace Change

def Admissible : Change → Prop
  | .unknownOperation name => ∀ operation : AssuranceOperation, name ≠ operation.label
  | .unknownClassification name => ∀ classification : AssetClassification, name ≠ classification.label
  | .unknownRisk name => ∀ risk : RiskLevel, name ≠ risk.label
  | .raiseScore lower higher => lower ≤ higher
  | .raiseClassification lower higher => classificationSeverity lower ≤ classificationSeverity higher
  | .raiseRisk lower higher => riskSeverity lower ≤ riskSeverity higher
  | .withdrawStepUp => True

/-- The changed position never gives a lower level than what it replaces. -/
def Safe (input : AssurancePolicyInput) : Change → Prop
  | .unknownOperation name => ∀ operation : AssuranceOperation,
      level { input with operation := operation.label } ≤ level { input with operation := name }
  | .unknownClassification name => ∀ classification : AssetClassification,
      level { input with assetClassification := some classification.label } ≤
        level { input with assetClassification := some name }
  | .unknownRisk name => ∀ risk : RiskLevel,
      level { input with riskLevel := some risk.label } ≤ level { input with riskLevel := some name }
  | .raiseScore lower higher =>
      level { input with riskScore := some lower } ≤ level { input with riskScore := some higher }
  | .raiseClassification lower higher =>
      level { input with assetClassification := some lower.label } ≤
        level { input with assetClassification := some higher.label }
  | .raiseRisk lower higher =>
      level { input with riskLevel := some lower.label } ≤
        level { input with riskLevel := some higher.label }
  | .withdrawStepUp =>
      level { input with stepUpSatisfied := true } ≤ level { input with stepUpSatisfied := false }

end Change

/-- The policy is monotone and fails closed. -/
def FailsClosed : Prop :=
  ∀ (input : AssurancePolicyInput) (change : Change), change.Admissible → change.Safe input

/-! ### What the other positions weigh -/

section Weights

variable (input : AssurancePolicyInput)

def classificationPoints : ℕ := (classificationWeight input.assetClassification).1

def storedRiskPoints : ℕ := riskPoints (input.riskLevel.getD "LOW")

def stepUpPoints : ℕ := (stepUpWeight input).1

/-- Hardened by the operation, the risk level or the role, whatever the classification is. -/
def HardenedBesideClassification : Prop :=
  QuantumListed input.operation ∨ input.riskLevel = some "CRITICAL" ∨
    (Irreversible input.operation ∧ toUpperCase input.role = "ADMIN")

/-- Hardened by the operation, the classification or the role, whatever the risk level is. -/
def HardenedBesideRisk : Prop :=
  QuantumListed input.operation ∨ (Irreversible input.operation ∧
    (input.assetClassification = some "CRITICAL" ∨ toUpperCase input.role = "ADMIN"))

/-- Hardened whatever the score is. -/
def HardenedBesideScore : Prop :=
  QuantumListed input.operation ∨ input.riskLevel = some "CRITICAL" ∨
    (Irreversible input.operation ∧
      (input.assetClassification = some "CRITICAL" ∨ toUpperCase input.role = "ADMIN"))

/-! The sum of the weights without the one of a single position. -/

def pointsBesideOperation : ℕ :=
  classificationPoints input + storedRiskPoints input + band input.riskScore + standing input

def pointsBesideClassification : ℕ :=
  operationPoints input.operation + storedRiskPoints input + band input.riskScore +
    standing input + stepUpPoints input

def pointsBesideRisk : ℕ :=
  operationPoints input.operation + classificationPoints input + band input.riskScore +
    standing input + stepUpPoints input

def pointsBesideScore : ℕ :=
  operationPoints input.operation + classificationPoints input + storedRiskPoints input +
    standing input + stepUpPoints input

end Weights

/-- The changes after which the level is as high as before. -/
def Change.Covered (input : AssurancePolicyInput) : Change → Prop
  | .unknownOperation name =>
      input.riskLevel = some "CRITICAL" ∨
        (name ∉ inheritedNames ∧ input.riskLevel.getD "LOW" ∉ inheritedNames ∧
          (input.stepUpSatisfied = false ∨ 10 ≤ pointsBesideOperation input))
  | .unknownClassification name =>
      HardenedBesideClassification input ∨
        (Numeric input ∧ (name ≠ "" ∨ 70 ≤ pointsBesideClassification input)) ∨
        (¬ Numeric input ∧ ¬ Irreversible input.operation)
  | .unknownRisk name =>
      HardenedBesideRisk input ∨
        (input.operation ∉ inheritedNames ∧ name ∉ inheritedNames ∧ 30 ≤ pointsBesideRisk input)
  | .raiseScore lower higher =>
      higher ≠ .infinity ∨ HardenedBesideScore input ∨ ¬ Numeric input ∨
        ((70 ≤ pointsBesideScore input + band (some lower) → 70 ≤ pointsBesideScore input) ∧
          (40 ≤ pointsBesideScore input + band (some lower) →
            40 ≤ pointsBesideScore input ∨ ElevatedFloor input.operation))
  | .raiseClassification _ _ => True
  | .raiseRisk _ _ => True
  | .withdrawStepUp => True

/-! ### Comparing two levels -/

variable {input input' : AssurancePolicyInput} {name : String}

def Raised (input : AssurancePolicyInput) : Prop :=
  (assuranceScore input).AtLeast elevatedThreshold ∨ ElevatedFloor input.operation

theorem level_eq_two (h : QuantumMandated input) : level input = 2 := by
  unfold level evaluateAssurance assuranceLevel
  simp only [if_pos h, rank]

theorem level_eq_one (h : ¬ QuantumMandated input) (hraised : Raised input) : level input = 1 := by
  unfold Raised at hraised
  unfold level evaluateAssurance assuranceLevel
  simp only [if_neg h, if_pos hraised, rank]

theorem level_eq_zero (h : ¬ QuantumMandated input) (hraised : ¬ Raised input) : level input = 0 := by
  unfold Raised at hraised
  unfold level evaluateAssurance assuranceLevel
  simp only [if_neg h, if_neg hraised, rank]

theorem level_le_two : level input ≤ 2 := by
  unfold level
  cases (evaluateAssurance input).level <;> decide

theorem level_le_iff :
    level input ≤ level input' ↔ (QuantumMandated input → QuantumMandated input') ∧
      (Raised input → QuantumMandated input' ∨ Raised input') := by
  by_cases hm' : QuantumMandated input'
  · rw [level_eq_two hm']
    exact ⟨fun _ => ⟨fun _ => hm', fun _ => .inl hm'⟩, fun _ => level_le_two⟩
  by_cases hm : QuantumMandated input
  · have hle : level input' ≤ 1 := by
      by_cases hr' : Raised input'
      · exact (level_eq_one hm' hr').le
      · exact (level_eq_zero hm' hr').le.trans (by omega)
    rw [level_eq_two hm]
    exact ⟨fun h => by omega, fun h => absurd (h.1 hm) hm'⟩
  by_cases hr : Raised input
  · rw [level_eq_one hm hr]
    by_cases hr' : Raised input'
    · rw [level_eq_one hm' hr']
      exact ⟨fun _ => ⟨fun h => absurd h hm, fun _ => .inr hr'⟩, fun _ => le_rfl⟩
    · rw [level_eq_zero hm' hr']
      exact ⟨fun h => by omega, fun h => absurd (h.2 hr) (not_or.mpr ⟨hm', hr'⟩)⟩
  · rw [level_eq_zero hm hr]
    exact ⟨fun _ => ⟨fun h => absurd h hm, fun h => absurd h hr⟩, fun _ => Nat.zero_le _⟩

theorem quantumMandated_iff :
    QuantumMandated input ↔ (Numeric input ∧ 70 ≤ points input) ∨ HardenedBesideScore input :=
  or_congr atLeast_assuranceScore Iff.rfl

theorem raised_iff :
    Raised input ↔ (Numeric input ∧ 40 ≤ points input) ∨ ElevatedFloor input.operation :=
  or_congr atLeast_assuranceScore Iff.rfl

theorem level_le_of_mandated (h : QuantumMandated input') : level input ≤ level input' :=
  level_le_iff.mpr ⟨fun _ => h, fun _ => .inl h⟩

theorem level_le_iff_mandated (h : QuantumMandated input) :
    level input ≤ level input' ↔ QuantumMandated input' :=
  ⟨fun hle => (level_le_iff.mp hle).1 h, level_le_of_mandated⟩

/-! ### One position and the rest -/

theorem points_operation {w : ℕ} (hstepUp : stepUpPoints { input with operation := name } = w) :
    points { input with operation := name } = operationPoints name + pointsBesideOperation input + w := by
  have hstanding : standing { input with operation := name } = standing input := rfl
  rw [stepUpPoints] at hstepUp
  simp only [points, pointsBesideOperation, classificationPoints, storedRiskPoints, hstepUp, hstanding]
  omega

theorem points_classification (classification : Option String) :
    points { input with assetClassification := classification } =
      pointsBesideClassification input + (classificationWeight classification).1 := by
  have hstepUp : stepUpWeight { input with assetClassification := classification } =
    stepUpWeight input := rfl
  have hstanding : standing { input with assetClassification := classification } =
    standing input := rfl
  simp only [points, pointsBesideClassification, storedRiskPoints, stepUpPoints, hstepUp, hstanding]
  omega

theorem points_riskLevel (risk : String) :
    points { input with riskLevel := some risk } = pointsBesideRisk input + riskPoints risk := by
  have hstepUp : stepUpWeight { input with riskLevel := some risk } = stepUpWeight input := rfl
  have hstanding : standing { input with riskLevel := some risk } = standing input := rfl
  simp only [points, pointsBesideRisk, classificationPoints, stepUpPoints, hstepUp, hstanding,
    Option.getD_some]
  omega

theorem points_riskScore (score : Number) :
    points { input with riskScore := some score } = pointsBesideScore input + band (some score) := by
  have hstepUp : stepUpWeight { input with riskScore := some score } = stepUpWeight input := rfl
  have hstanding : standing { input with riskScore := some score } = standing input := rfl
  simp only [points, pointsBesideScore, classificationPoints, storedRiskPoints, stepUpPoints, hstepUp,
    hstanding]
  omega

/-! ### An unknown operation -/

@[simp] theorem operationPoints_label (operation : AssuranceOperation) :
    operationPoints operation.label = CryptoAssurance.operationWeight operation := by
  rw [operationPoints, knownOperationWeight_label, Option.getD_some]

theorem operationPoints_unknown (h : ∀ operation : AssuranceOperation, name ≠ operation.label) :
    operationPoints name = 60 := by
  have hnone : assuranceOperations.find? (fun operation => operation.label = name) = none := by
    rw [List.find?_eq_none]
    intro operation _ heq
    exact h operation (of_decide_eq_true heq).symm
  rw [operationPoints, knownOperationWeight, hnone]
  rfl

theorem notMem_map_label (h : ∀ operation : AssuranceOperation, name ≠ operation.label)
    (operations : List AssuranceOperation) : name ∉ operations.map AssuranceOperation.label := by
  intro hmem
  obtain ⟨operation, _, heq⟩ := List.mem_map.mp hmem
  exact h operation heq.symm

theorem stepUpPoints_unknown (h : ∀ operation : AssuranceOperation, name ≠ operation.label)
    (hname : name ∉ inheritedNames) :
    stepUpPoints { input with operation := name } = if input.stepUpSatisfied = false then 15 else 0 := by
  have hweight : operationWeight name = .number 60 := by
    rw [operationWeight, lookUp_eq_number hname]
    exact congrArg Amount.number (operationPoints_unknown h)
  simp only [stepUpPoints, stepUpWeight, weighIf, hweight, Amount.atLeast_number]
  by_cases hstepUp : input.stepUpSatisfied = false
  · rw [if_pos ⟨hstepUp, .inl (by omega)⟩, if_pos hstepUp]
  · rw [if_neg fun hboth => hstepUp hboth.1, if_neg hstepUp]

theorem safe_unknownOperation (h : (Change.unknownOperation name).Admissible) :
    (Change.unknownOperation name).Safe input ↔ (Change.unknownOperation name).Covered input := by
  have hburn : QuantumMandated { input with operation := AssuranceOperation.assetBurn.label } :=
    .inr (.inl ((@quantumListed_label .assetBurn).mpr (by decide)))
  have hsafe : (Change.unknownOperation name).Safe input ↔
      QuantumMandated { input with operation := name } :=
    ⟨fun hall => (level_le_iff_mandated hburn).mp (hall .assetBurn),
      fun hmandated operation => level_le_of_mandated hmandated⟩
  have hlisted : ¬ QuantumListed name := notMem_map_label h _
  have hirreversible : ¬ Irreversible name := notMem_map_label h _
  have hscore : HardenedBesideScore { input with operation := name } ↔
      input.riskLevel = some "CRITICAL" := by
    simp only [HardenedBesideScore, hlisted, hirreversible, false_and, false_or, or_false]
  rw [hsafe, quantumMandated_iff, hscore, or_comm]
  apply or_congr_right
  simp only [Numeric, and_assoc]
  apply and_congr_right
  intro hname
  apply and_congr_right
  intro _
  rw [points_operation (stepUpPoints_unknown h hname), operationPoints_unknown h]
  by_cases hstepUp : input.stepUpSatisfied = false
  · rw [if_pos hstepUp]
    exact ⟨fun _ => .inl hstepUp, fun _ => by omega⟩
  · rw [if_neg hstepUp]
    constructor
    · intro hle
      right
      omega
    · rintro (hfalse | hle)
      · exact absurd hfalse hstepUp
      · omega

/-! ### An unknown risk level -/

theorem riskPoints_unknown (h : ∀ risk : RiskLevel, name ≠ risk.label) : riskPoints name = 40 := by
  have hnone : riskLevels.find? (fun risk => risk.label = name) = none := by
    rw [List.find?_eq_none]
    intro risk _ heq
    exact h risk (of_decide_eq_true heq).symm
  rw [riskPoints, knownRiskWeight, hnone]
  rfl

theorem safe_unknownRisk (h : (Change.unknownRisk name).Admissible) :
    (Change.unknownRisk name).Safe input ↔ (Change.unknownRisk name).Covered input := by
  have hcritical : QuantumMandated { input with riskLevel := some RiskLevel.critical.label } :=
    .inr (.inr (.inl rfl))
  have hsafe : (Change.unknownRisk name).Safe input ↔
      QuantumMandated { input with riskLevel := some name } :=
    ⟨fun hall => (level_le_iff_mandated hcritical).mp (hall .critical),
      fun hmandated risk => level_le_of_mandated hmandated⟩
  have hname : ¬ some name = some "CRITICAL" := fun heq => h .critical (Option.some.inj heq)
  have hscore : HardenedBesideScore { input with riskLevel := some name } ↔
      HardenedBesideRisk input := by
    simp only [HardenedBesideScore, HardenedBesideRisk, hname, false_or]
  rw [hsafe, quantumMandated_iff, hscore, or_comm]
  apply or_congr_right
  simp only [Numeric, Option.getD_some, and_assoc]
  apply and_congr_right
  intro _
  apply and_congr_right
  intro _
  rw [points_riskLevel, riskPoints_unknown h]
  omega

/-! ### Raising a recognised value -/

theorem level_mono (hoperation : input.operation = input'.operation)
    (hnumeric : Numeric input → Numeric input') (hpoints : points input ≤ points input')
    (hscore : HardenedBesideScore input → HardenedBesideScore input') :
    level input ≤ level input' := by
  rw [level_le_iff, quantumMandated_iff, quantumMandated_iff, raised_iff, raised_iff, hoperation]
  constructor
  · rintro (⟨hn, hp⟩ | hs)
    · exact .inl ⟨hnumeric hn, hp.trans hpoints⟩
    · exact .inr (hscore hs)
  · rintro (⟨hn, hp⟩ | hfloor)
    · exact .inr (.inl ⟨hnumeric hn, hp.trans hpoints⟩)
    · exact .inr (.inr hfloor)

theorem classificationLabel_injective : Function.Injective AssetClassification.label := by
  apply label_injective [.publicAsset, .controlled, .sensitive, .highlySensitive, .critical]
  intro classification
  cases classification <;> rfl

theorem classificationWeight_mono {lower higher : AssetClassification}
    (h : classificationSeverity lower ≤ classificationSeverity higher) :
    (classificationWeight (some lower.label)).1 ≤ (classificationWeight (some higher.label)).1 := by
  have hweight : ∀ classification : AssetClassification,
      (classificationWeight (some classification.label)).1 =
        match classification with
        | .publicAsset => 0
        | .controlled => 5
        | .sensitive => 15
        | .highlySensitive => 30
        | .critical => 45 := by
    intro classification
    cases classification <;> rfl
  rw [hweight, hweight]
  cases lower <;> cases higher <;> first | decide | exact absurd h (by decide)

theorem riskPoints_mono {lower higher : RiskLevel} (h : riskSeverity lower ≤ riskSeverity higher) :
    riskPoints lower.label ≤ riskPoints higher.label := by
  simp only [riskPoints, knownRiskWeight_label, Option.getD_some]
  cases lower <;> cases higher <;> first | decide | exact absurd h (by decide)

theorem safe_raiseClassification {lower higher : AssetClassification}
    (h : (Change.raiseClassification lower higher).Admissible) :
    (Change.raiseClassification lower higher).Safe input := by
  have hle : classificationSeverity lower ≤ classificationSeverity higher := h
  unfold Change.Safe
  apply level_mono
  · rfl
  · exact id
  · rw [points_classification, points_classification]
    exact Nat.add_le_add_left (classificationWeight_mono hle) _
  · rintro (hlisted | hrisk | ⟨hirreversible, hcritical | hadmin⟩)
    · exact .inl hlisted
    · exact .inr (.inl hrisk)
    · have hlower : lower = .critical := classificationLabel_injective (Option.some.inj hcritical)
      have hhigher : higher = .critical := by
        subst hlower
        cases higher <;> first | rfl | exact absurd hle (by decide)
      subst hhigher
      exact .inr (.inr ⟨hirreversible, .inl rfl⟩)
    · exact .inr (.inr ⟨hirreversible, .inr hadmin⟩)

theorem safe_raiseRisk {lower higher : RiskLevel} (h : (Change.raiseRisk lower higher).Admissible) :
    (Change.raiseRisk lower higher).Safe input := by
  have hle : riskSeverity lower ≤ riskSeverity higher := h
  unfold Change.Safe
  apply level_mono
  · rfl
  · intro hnumeric
    exact ⟨hnumeric.1, riskLabel_notMem_inheritedNames higher⟩
  · rw [points_riskLevel, points_riskLevel]
    exact Nat.add_le_add_left (riskPoints_mono hle) _
  · rintro (hlisted | hrisk | hirreversible)
    · exact .inl hlisted
    · have hlower : lower = .critical := riskLabel_injective (Option.some.inj hrisk)
      have hhigher : higher = .critical := by
        subst hlower
        cases higher <;> first | rfl | exact absurd hle (by decide)
      subst hhigher
      exact .inr (.inl rfl)
    · exact .inr (.inr hirreversible)

theorem safe_withdrawStepUp : Change.withdrawStepUp.Safe input := by
  unfold Change.Safe
  apply level_mono
  · rfl
  · exact id
  · have hstepUp : (stepUpWeight { input with stepUpSatisfied := true }).1 = 0 :=
      congrArg Prod.fst (if_neg fun hboth => Bool.noConfusion hboth.1)
    have hstanding : standing { input with stepUpSatisfied := true } =
      standing { input with stepUpSatisfied := false } := rfl
    simp only [points]
    omega
  · exact id

/-! ### Raising the advisory score -/

theorem band_mono {lower higher : Number} (h : lower ≤ higher) (hfinite : higher ≠ .infinity) :
    band (some lower) ≤ band (some higher) := by
  cases lower with
  | infinity => cases higher <;> first | exact absurd rfl hfinite | exact h.elim
  | minusInfinity => exact Nat.zero_le _
  | nan => exact h.elim
  | finite p =>
    cases higher with
    | infinity => exact absurd rfl hfinite
    | minusInfinity => exact h.elim
    | nan => exact h.elim
    | finite q =>
      have hpq : p ≤ q := h
      have hclamp : max 0 (min 100 p) ≤ max 0 (min 100 q) :=
        max_le_max le_rfl (min_le_min le_rfl hpq)
      simp only [band]
      by_cases hhigh : 75 ≤ max 0 (min 100 q)
      · rw [if_pos hhigh]
        split_ifs <;> omega
      by_cases hmiddle : 50 ≤ max 0 (min 100 q)
      · rw [if_neg hhigh, if_neg fun hp => hhigh (hp.trans hclamp), if_pos hmiddle]
        split_ifs <;> omega
      · rw [if_neg fun hp => hhigh (hp.trans hclamp), if_neg fun hp => hmiddle (hp.trans hclamp)]
        exact Nat.zero_le _

theorem safe_raiseInfinity (lower : Number) :
    (Change.raiseScore lower .infinity).Safe input ↔
      HardenedBesideScore input ∨ ¬ Numeric input ∨
        ((70 ≤ pointsBesideScore input + band (some lower) → 70 ≤ pointsBesideScore input) ∧
          (40 ≤ pointsBesideScore input + band (some lower) →
            40 ≤ pointsBesideScore input ∨ ElevatedFloor input.operation)) := by
  have hscore (score : Number) : HardenedBesideScore { input with riskScore := some score } ↔
      HardenedBesideScore input := Iff.rfl
  have hnumeric (score : Number) : Numeric { input with riskScore := some score } ↔ Numeric input :=
    Iff.rfl
  have hband : band (some .infinity) = 0 := rfl
  rw [Change.Safe, level_le_iff]
  simp only [quantumMandated_iff, raised_iff, hscore, hnumeric, points_riskScore, hband,
    Nat.add_zero]
  by_cases hhardened : HardenedBesideScore input
  · exact ⟨fun _ => .inl hhardened, fun _ => ⟨fun _ => .inr hhardened, fun _ => .inl (.inr hhardened)⟩⟩
  by_cases hn : Numeric input
  · simp only [hhardened, hn, or_false, false_or, true_and, not_true_eq_false]
    apply and_congr_right
    intro _
    constructor
    · intro hraised hle
      rcases hraised (.inl hle) with hseventy | hforty
      · left
        omega
      · exact hforty
    · rintro hraised (hle | hfloor)
      · exact .inr (hraised hle)
      · exact .inr (.inr hfloor)
  · exact ⟨fun _ => .inr (.inl hn), fun _ => ⟨fun hm => absurd hm (by simp [hn, hhardened]),
      fun hr => .inr (.inr (hr.resolve_left fun hboth => hn hboth.1))⟩⟩

theorem safe_raiseScore {lower higher : Number} (h : (Change.raiseScore lower higher).Admissible) :
    (Change.raiseScore lower higher).Safe input ↔ (Change.raiseScore lower higher).Covered input := by
  by_cases hfinite : higher = .infinity
  · subst hfinite
    rw [safe_raiseInfinity, Change.Covered]
    exact ⟨.inr, fun hcovered => hcovered.resolve_left fun hne => hne rfl⟩
  · have hle : (Change.raiseScore lower higher).Safe input := by
      unfold Change.Safe
      apply level_mono
      · rfl
      · exact id
      · rw [points_riskScore, points_riskScore]
        exact Nat.add_le_add_left (band_mono h hfinite) _
      · exact id
    exact iff_of_true hle (.inl hfinite)

/-! ### An unknown classification -/

theorem classificationWeight_unknown
    (h : ∀ classification : AssetClassification, name ≠ classification.label) (hname : name ≠ "") :
    (classificationWeight (some name)).1 = 45 := by
  have hnone : knownClassificationWeight name = none := by
    unfold knownClassificationWeight
    split
    · exact absurd rfl (h .publicAsset)
    · exact absurd rfl (h .controlled)
    · exact absurd rfl (h .sensitive)
    · exact absurd rfl (h .highlySensitive)
    · exact absurd rfl (h .critical)
    · rfl
  unfold classificationWeight
  split
  · rename_i heq
    cases heq
  · rename_i heq
    exact absurd (Option.some.inj heq) hname
  · rename_i heq
    cases heq
    rw [hnone]

theorem le_operationPoints_of_mem {operations : List AssuranceOperation} {bound : ℕ}
    (hall : ∀ operation ∈ operations, bound ≤ CryptoAssurance.operationWeight operation)
    (h : name ∈ operations.map AssuranceOperation.label) : bound ≤ operationPoints name := by
  obtain ⟨operation, hmem, rfl⟩ := List.mem_map.mp h
  rw [operationPoints_label]
  exact hall operation hmem

theorem le_operationPoints_of_irreversible (h : Irreversible name) : 45 ≤ operationPoints name :=
  le_operationPoints_of_mem (by decide) h

theorem le_operationPoints_of_elevatedFloor (h : ElevatedFloor name) : 30 ≤ operationPoints name := by
  rcases h with hirreversible | hadministrative
  · exact le_trans (by decide) (le_operationPoints_of_irreversible hirreversible)
  · exact le_operationPoints_of_mem (by decide) hadministrative

theorem operationPoints_le_pointsBesideClassification :
    operationPoints input.operation ≤ pointsBesideClassification input := by
  unfold pointsBesideClassification
  omega

theorem hardened_classification (classification : Option String) :
    HardenedBesideScore { input with assetClassification := classification } ↔
      HardenedBesideClassification input ∨
        (Irreversible input.operation ∧ classification = some "CRITICAL") := by
  unfold HardenedBesideScore HardenedBesideClassification
  constructor
  · rintro (hlisted | hrisk | ⟨hirreversible, hcritical | hadmin⟩)
    · exact .inl (.inl hlisted)
    · exact .inl (.inr (.inl hrisk))
    · exact .inr ⟨hirreversible, hcritical⟩
    · exact .inl (.inr (.inr ⟨hirreversible, hadmin⟩))
  · rintro ((hlisted | hrisk | ⟨hirreversible, hadmin⟩) | ⟨hirreversible, hcritical⟩)
    · exact .inl hlisted
    · exact .inr (.inl hrisk)
    · exact .inr (.inr ⟨hirreversible, .inr hadmin⟩)
    · exact .inr (.inr ⟨hirreversible, .inl hcritical⟩)

theorem mandated_classification (classification : Option String) :
    QuantumMandated { input with assetClassification := classification } ↔
      (Numeric input ∧
        70 ≤ pointsBesideClassification input + (classificationWeight classification).1) ∨
      HardenedBesideClassification input ∨
        (Irreversible input.operation ∧ classification = some "CRITICAL") := by
  rw [quantumMandated_iff, hardened_classification, points_classification]
  exact Iff.rfl

theorem raised_classification (classification : Option String) :
    Raised { input with assetClassification := classification } ↔
      (Numeric input ∧
        40 ≤ pointsBesideClassification input + (classificationWeight classification).1) ∨
      ElevatedFloor input.operation := by
  rw [raised_iff, points_classification]
  exact Iff.rfl

theorem safe_iff_critical :
    (Change.unknownClassification name).Safe input ↔
      level { input with assetClassification := some "CRITICAL" } ≤
        level { input with assetClassification := some name } := by
  constructor
  · exact fun hall => hall .critical
  · intro hcritical classification
    have hseverity : classificationSeverity classification ≤ classificationSeverity .critical := by
      cases classification <;> decide
    have hraise : (Change.raiseClassification classification .critical).Safe input :=
      safe_raiseClassification hseverity
    exact hraise.trans hcritical

/-- A classification that is not the empty text weighs as much as `CRITICAL`. -/
theorem safe_of_numeric (h : (Change.unknownClassification name).Admissible) (hname : name ≠ "")
    (hnumeric : Numeric input) : (Change.unknownClassification name).Safe input := by
  have hweight := classificationWeight_unknown h hname
  have hcritical : (classificationWeight (some "CRITICAL")).1 = 45 := rfl
  rw [safe_iff_critical, level_le_iff, mandated_classification, mandated_classification,
    raised_classification, raised_classification, hweight, hcritical]
  refine ⟨?_, .inr⟩
  rintro (hscore | hhardened | ⟨hirreversible, _⟩)
  · exact .inl hscore
  · exact .inr (.inl hhardened)
  · have hpoints := le_operationPoints_of_irreversible hirreversible
    have hsum := @operationPoints_le_pointsBesideClassification input
    exact .inl ⟨hnumeric, by omega⟩

/-- The empty text weighs nothing. -/
theorem safe_empty_iff (hnumeric : Numeric input) :
    (Change.unknownClassification "").Safe input ↔
      HardenedBesideClassification input ∨ 70 ≤ pointsBesideClassification input := by
  have hweight : (classificationWeight (some "")).1 = 0 := rfl
  have hcritical : (classificationWeight (some "CRITICAL")).1 = 45 := rfl
  have hmandated : QuantumMandated { input with assetClassification := some "" } ↔
      HardenedBesideClassification input ∨ 70 ≤ pointsBesideClassification input := by
    rw [mandated_classification, hweight]
    simp [hnumeric, or_comm]
  rw [safe_iff_critical]
  constructor
  · intro hle
    by_contra hnot
    have hboth := level_le_iff.mp hle
    have hsmall : pointsBesideClassification input < 25 := by
      by_contra hlarge
      refine hnot (hmandated.mp (hboth.1 ?_))
      rw [mandated_classification, hcritical]
      exact .inl ⟨hnumeric, by omega⟩
    have hraised : Raised { input with assetClassification := some "CRITICAL" } := by
      rw [raised_classification, hcritical]
      exact .inl ⟨hnumeric, by omega⟩
    rcases hboth.2 hraised with hm | hr
    · exact hnot (hmandated.mp hm)
    · rw [raised_classification, hweight] at hr
      rcases hr with ⟨_, hforty⟩ | hfloor
      · omega
      · have hpoints := le_operationPoints_of_elevatedFloor hfloor
        have hsum := @operationPoints_le_pointsBesideClassification input
        omega
  · intro hcovered
    exact level_le_of_mandated (hmandated.mpr hcovered)

/-- Once the score is a text, only the overriding rules are left. -/
theorem safe_text_iff (h : (Change.unknownClassification name).Admissible)
    (hnumeric : ¬ Numeric input) :
    (Change.unknownClassification name).Safe input ↔
      HardenedBesideClassification input ∨ ¬ Irreversible input.operation := by
  have hname : ¬ some name = some "CRITICAL" := fun heq => h .critical (Option.some.inj heq)
  rw [safe_iff_critical, level_le_iff, mandated_classification, mandated_classification,
    raised_classification, raised_classification]
  simp only [hnumeric, false_and, false_or, hname, and_false, or_false, and_true]
  constructor
  · rintro ⟨hmandated, _⟩
    by_cases hirreversible : Irreversible input.operation
    · exact .inl (hmandated (.inr hirreversible))
    · exact .inr hirreversible
  · intro hcovered
    refine ⟨?_, .inr⟩
    rintro (hhardened | hirreversible)
    · exact hhardened
    · exact hcovered.resolve_right fun hnot => hnot hirreversible

theorem safe_unknownClassification (h : (Change.unknownClassification name).Admissible) :
    (Change.unknownClassification name).Safe input ↔
      (Change.unknownClassification name).Covered input := by
  unfold Change.Covered
  by_cases hnumeric : Numeric input
  · simp only [hnumeric, true_and, not_true_eq_false, false_and, or_false]
    by_cases hname : name = ""
    · subst hname
      rw [safe_empty_iff hnumeric]
      simp
    · exact iff_of_true (safe_of_numeric h hname hnumeric) (.inr (.inl hname))
  · rw [safe_text_iff h hnumeric]
    simp only [hnumeric, false_and, false_or, not_false_eq_true, true_and]

/-! ### The policy as a whole -/

/-- An ordinary request: a member views an asset with a step-up. -/
def viewRequest : AssurancePolicyInput :=
  { operation := "ASSET_VIEW"
    role := "USER"
    assetClassification := none
    riskLevel := some "LOW"
    riskScore := none
    custodyRelation := some .notApplicable
    approvalStatus := some .notRequired
    stepUpSatisfied := true }

theorem unknownOperation_admissible : (Change.unknownOperation "ASSET_SHRED").Admissible := by
  intro operation
  cases operation <;> decide

end Sampraan.CryptoAssurance.Untyped
