import Sampraan.Assets.DryRun

/-! How the decision of the policy engine changes with the request. -/

namespace Sampraan.Assets

open Backend

/-- DENY < CHALLENGE < ALLOW. -/
def permissiveness : AuditDecision → ℕ
  | .deny => 0
  | .challenge => 1
  | .allow => 2

namespace AuthorizationRequest

/-- The identity is ACTIVE and holds the permission for the action. -/
def Admitted (r : AuthorizationRequest) : Prop :=
  r.identityStatus = "ACTIVE" ∧
    (r.role = "ADMIN" ∨ toLowerCase r.resourceType ++ ":" ++ toLowerCase r.action ∈ r.permissions ∨
      "administration:manage" ∈ r.permissions)

/-- The custody check or a rejected approval refuses the transfer. -/
def Refused (r : AuthorizationRequest) : Prop :=
  r.action = "TRANSFER" ∧ (r.CustodyRefuses ∨ r.approvalStatus = some .rejected)

/-- A required approval is missing, or the risk is HIGH. -/
def Gated (r : AuthorizationRequest) : Prop :=
  (r.action = "TRANSFER" ∧ r.approvalRequired = true ∧ r.approvalStatus ≠ some .approved) ∨
    (r.RiskElevates ∧ (r.action = "TRANSFER" ∨ r.action = "CREATE_ASSET"))

/-- The transfer of an asset whose classification is the literal that the engine tests for. -/
def Special (r : AuthorizationRequest) : Prop := r.action = "TRANSFER" ∧ r.highlySensitive

instance (r : AuthorizationRequest) : Decidable r.Admitted := by
  unfold Admitted
  infer_instance

instance (r : AuthorizationRequest) : Decidable r.CustodyRefuses := by
  unfold CustodyRefuses
  infer_instance

instance (r : AuthorizationRequest) : Decidable r.Refused := by
  unfold Refused
  infer_instance

instance (r : AuthorizationRequest) : Decidable r.Gated := by
  unfold Gated RiskElevates
  infer_instance

instance (r : AuthorizationRequest) : Decidable r.Special := by
  unfold Special
  infer_instance

end AuthorizationRequest

open AuthorizationRequest

theorem evaluate_decision (r : AuthorizationRequest) : (evaluate r).decision =
    if ¬ r.Admitted then .deny
    else if r.Special ∧ r.role = "USER" then .deny
    else if r.Special ∧ r.stepUpAuthenticated = false then .challenge
    else if r.Refused then .deny
    else if r.Gated then .challenge
    else .allow := by
  unfold evaluate
  by_cases hactive : r.identityStatus = "ACTIVE"
  case neg => rw [if_pos hactive, if_pos fun h => hactive h.1, deny]
  by_cases hheld : r.role ≠ "ADMIN" ∧
      toLowerCase r.resourceType ++ ":" ++ toLowerCase r.action ∉ r.permissions ∧
        "administration:manage" ∉ r.permissions
  case pos =>
    have hadmitted : ¬ r.Admitted := by
      rintro ⟨-, hrole | hpermission | hmanage⟩
      · exact hheld.1 hrole
      · exact hheld.2.1 hpermission
      · exact hheld.2.2 hmanage
    rw [if_neg (not_not.mpr hactive), if_pos hheld, if_pos hadmitted, deny]
  have hadmitted : r.Admitted := ⟨hactive, by tauto⟩
  rw [if_neg (not_not.mpr hactive), if_neg hheld, if_neg (not_not.mpr hadmitted)]
  by_cases htransfer : r.action = "TRANSFER"
  case neg =>
    have hspecial : ¬ r.Special := fun h => htransfer h.1
    have hrefused : ¬ r.Refused := fun h => htransfer h.1
    simp only [htransfer, hspecial, hrefused, false_and, if_false, false_or, Gated, RiskElevates]
    grind [challenge, allow]
  have hspecial : r.Special ↔ r.assetClassification = some "HIGHLY_SENSITIVE" :=
    and_iff_right htransfer
  simp only [htransfer, hspecial, true_and, Refused, Gated, CustodyRefuses, RiskElevates]
  grind [deny, challenge, allow]

/-! ### The classification of the asset -/

/-- PUBLIC, CONTROLLED, SENSITIVE, HIGHLY_SENSITIVE, CRITICAL, in this order. -/
def sensitivity : AssetClassification → ℕ
  | .publicAsset => 0
  | .controlled => 1
  | .sensitive => 2
  | .highlySensitive => 3
  | .critical => 4

namespace AuthorizationRequest

def withClassification (r : AuthorizationRequest) (classification : AssetClassification) :
    AuthorizationRequest :=
  { r with assetClassification := some classification.label }

/-- From HIGHLY_SENSITIVE to CRITICAL, past the literal that the engine tests for, when nothing else
holds up the request. -/
def PastLiteral (r : AuthorizationRequest) (c c' : AssetClassification) : Prop :=
  c = .highlySensitive ∧ c' = .critical ∧ r.Admitted ∧ ¬ r.Refused ∧
    (r.role = "USER" ∨ (r.stepUpAuthenticated = false ∧ ¬ r.Gated))

/-- The step-up that HIGHLY_SENSITIVE asks for comes before the checks that refuse the request. -/
def AskedFirst (r : AuthorizationRequest) (c' : AssetClassification) : Prop :=
  c' = .highlySensitive ∧ r.Admitted ∧ r.Refused ∧ r.role ≠ "USER" ∧ r.stepUpAuthenticated = false

theorem withClassification_special {r : AuthorizationRequest} (htransfer : r.action = "TRANSFER")
    {c : AssetClassification} : (r.withClassification c).Special ↔ c = .highlySensitive := by
  have hlabel : c.label = "HIGHLY_SENSITIVE" ↔ c = .highlySensitive := by
    cases c <;> simp [AssetClassification.label]
  simp [Special, highlySensitive, withClassification, htransfer, hlabel]

end AuthorizationRequest

theorem evaluate_withClassification {r : AuthorizationRequest} (htransfer : r.action = "TRANSFER")
    (c : AssetClassification) : (evaluate (r.withClassification c)).decision =
      if ¬ r.Admitted then .deny
      else if c = .highlySensitive ∧ r.role = "USER" then .deny
      else if c = .highlySensitive ∧ r.stepUpAuthenticated = false then .challenge
      else if r.Refused then .deny
      else if r.Gated then .challenge
      else .allow := by
  rw [evaluate_decision]
  simp only [withClassification_special htransfer]
  rfl

theorem decision_le_iff {r : AuthorizationRequest} (htransfer : r.action = "TRANSFER")
    {c c' : AssetClassification} (hc : sensitivity c < sensitivity c') :
    permissiveness (evaluate (r.withClassification c')).decision ≤
        permissiveness (evaluate (r.withClassification c)).decision ↔
      ¬ r.PastLiteral c c' ∧ ¬ r.AskedFirst c' := by
  rw [evaluate_withClassification htransfer, evaluate_withClassification htransfer]
  simp only [PastLiteral, AskedFirst]
  by_cases hadmitted : r.Admitted
  case neg => simp [hadmitted]
  simp only [hadmitted, not_true_eq_false, if_false, true_and]
  by_cases hfrom : c = .highlySensitive
  · have hto : c' = .critical := by
      subst hfrom
      cases c' <;> simp [sensitivity] at hc ⊢
    subst hfrom hto
    simp only [reduceCtorEq, false_and, if_false, true_and, not_false_eq_true, and_true]
    grind [permissiveness]
  · simp only [hfrom, false_and, if_false, not_false_eq_true, true_and]
    grind [permissiveness]

/-- Up to HIGHLY_SENSITIVE, and past it from below, a more sensitive asset is not easier to move,
apart from the step-up that is asked for first. -/
theorem classification_antitone {r : AuthorizationRequest} (htransfer : r.action = "TRANSFER")
    {c c' : AssetClassification} (hc : sensitivity c < sensitivity c') (hfrom : c ≠ .highlySensitive) :
    permissiveness (evaluate (r.withClassification c')).decision ≤
      permissiveness (evaluate (r.withClassification c)).decision ↔ ¬ r.AskedFirst c' := by
  rw [decision_le_iff htransfer hc]
  exact and_iff_right fun h => hfrom h.1

/-- A manager who is not the custodian. -/
def strangerRequest : AuthorizationRequest where
  identityStatus := "ACTIVE"
  role := "MANAGER"
  permissions := ["asset:transfer"]
  resourceType := "asset"
  action := "TRANSFER"
  assetClassification := some "SENSITIVE"
  actorIdentityId := some "identity-1"
  currentCustodianIdentityId := some "identity-2"
  approvalStatus := none
  riskLevel := some .low
  stepUpAuthenticated := false
  approvalRequired := false

theorem classification_antitone_sample :
    permissiveness (evaluate (strangerRequest.withClassification .critical)).decision ≤
      permissiveness (evaluate (strangerRequest.withClassification .sensitive)).decision := by
  apply (classification_antitone (by rfl) (by decide) (by decide)).mpr
  rintro ⟨hto, -⟩
  cases hto

/-- The transfer of a SENSITIVE asset is denied, that of a HIGHLY_SENSITIVE one challenged. -/
theorem not_antitone : ¬ ∀ (r : AuthorizationRequest) (c c' : AssetClassification),
    r.action = "TRANSFER" → sensitivity c < sensitivity c' →
      permissiveness (evaluate (r.withClassification c')).decision ≤
        permissiveness (evaluate (r.withClassification c)).decision := by
  intro h
  have hle := h strangerRequest .sensitive .highlySensitive rfl (by decide)
  exact absurd hle (by decide)

/-! ### Evidence -/

def riskRank : Option RiskLevel → ℕ
  | none => 0
  | some .low => 1
  | some .medium => 2
  | some .high => 3

/-- The requests agree but for more permissions, a step-up, an approval, no need of one, or less
risk. -/
structure MoreEvidence (r r' : AuthorizationRequest) : Prop where
  identityStatus : r'.identityStatus = r.identityStatus
  role : r'.role = r.role
  resourceType : r'.resourceType = r.resourceType
  action : r'.action = r.action
  assetClassification : r'.assetClassification = r.assetClassification
  actorIdentityId : r'.actorIdentityId = r.actorIdentityId
  currentCustodianIdentityId : r'.currentCustodianIdentityId = r.currentCustodianIdentityId
  permissions : r.permissions ⊆ r'.permissions
  stepUpAuthenticated : r.stepUpAuthenticated = true → r'.stepUpAuthenticated = true
  approvalStatus : r'.approvalStatus = r.approvalStatus ∨ r'.approvalStatus = some .approved
  approvalRequired : r'.approvalRequired = true → r.approvalRequired = true
  riskLevel : riskRank r'.riskLevel ≤ riskRank r.riskLevel

/-- The step-up lets the transfer through to the checks that refuse it. -/
def Exposed (r r' : AuthorizationRequest) : Prop :=
  r.Admitted ∧ r.Special ∧ r.role ≠ "USER" ∧ r.stepUpAuthenticated = false ∧
    r'.stepUpAuthenticated = true ∧ r'.Refused

namespace MoreEvidence

variable {r r' : AuthorizationRequest}

theorem risk (h : MoreEvidence r r') (hrisk : r'.riskLevel = some .high) :
    r.riskLevel = some .high := by
  have hle := h.riskLevel
  rw [hrisk] at hle
  match hr : r.riskLevel with
  | some .high => rfl
  | some .medium => simp [hr, riskRank] at hle
  | some .low => simp [hr, riskRank] at hle
  | none => simp [hr, riskRank] at hle

theorem admitted (h : MoreEvidence r r') (hr : r.Admitted) : r'.Admitted := by
  obtain ⟨hactive, hheld⟩ := hr
  refine ⟨h.identityStatus.trans hactive, ?_⟩
  rw [h.role, h.resourceType, h.action]
  rcases hheld with hrole | hpermission | hmanage
  · exact .inl hrole
  · exact .inr (.inl (h.permissions hpermission))
  · exact .inr (.inr (h.permissions hmanage))

theorem special (h : MoreEvidence r r') : r'.Special ↔ r.Special := by
  simp only [Special, highlySensitive, h.action, h.assetClassification]

theorem refused (h : MoreEvidence r r') (hr : r'.Refused) : r.Refused := by
  obtain ⟨htransfer, hrefuses⟩ := hr
  refine ⟨h.action ▸ htransfer, ?_⟩
  rcases hrefuses with hcustody | hrejected
  · refine .inl ?_
    simpa only [CustodyRefuses, notCustodian, h.role, h.actorIdentityId,
      h.currentCustodianIdentityId] using hcustody
  · rcases h.approvalStatus with hsame | happroved
    · exact .inr (hsame ▸ hrejected)
    · simp [hrejected] at happroved

theorem gated (h : MoreEvidence r r') (hr : r'.Gated) : r.Gated := by
  rcases hr with ⟨htransfer, hrequired, hmissing⟩ | ⟨⟨hrisk, hstep⟩, haction⟩
  · refine .inl ⟨h.action ▸ htransfer, h.approvalRequired hrequired, ?_⟩
    rcases h.approvalStatus with hsame | happroved
    · exact hsame ▸ hmissing
    · exact absurd happroved hmissing
  · refine .inr ⟨⟨h.risk hrisk, ?_⟩, h.action ▸ haction⟩
    have hnone : ¬ r.stepUpAuthenticated = true := fun hr => by simp [h.stepUpAuthenticated hr] at hstep
    simpa using hnone

theorem le_iff (h : MoreEvidence r r') :
    permissiveness (evaluate r).decision ≤ permissiveness (evaluate r').decision ↔
      ¬ Exposed r r' := by
  rw [evaluate_decision, evaluate_decision, h.role]
  by_cases hadmitted : r.Admitted
  case neg => simp [hadmitted, permissiveness, Exposed]
  simp only [hadmitted, h.admitted hadmitted, h.special, not_true_eq_false, if_false, Exposed,
    true_and]
  by_cases huser : r.Special ∧ r.role = "USER"
  case pos => simp [huser.1, huser.2]
  rw [if_neg huser, if_neg huser]
  by_cases hasked : r.Special ∧ r.stepUpAuthenticated = false
  case pos =>
    have hrole : r.role ≠ "USER" := fun hrole => huser ⟨hasked.1, hrole⟩
    rw [if_pos hasked]
    cases hstep : r'.stepUpAuthenticated with
    | false => simp [hasked.1]
    | true =>
      simp only [hasked.1, hasked.2, hrole, ne_eq, not_false_eq_true, Bool.true_eq_false, and_false,
        if_false, true_and]
      grind [permissiveness]
  case neg =>
    have hasked' : ¬ (r.Special ∧ r'.stepUpAuthenticated = false) := fun ⟨hspecial, hstep'⟩ => by
      have hstep : r.stepUpAuthenticated = true := by simpa using fun hstep => hasked ⟨hspecial, hstep⟩
      simp [h.stepUpAuthenticated hstep] at hstep'
    have hexposed : ¬ (r.Special ∧ r.role ≠ "USER" ∧ r.stepUpAuthenticated = false ∧
        r'.stepUpAuthenticated = true ∧ r'.Refused) := fun hr => hasked ⟨hr.1, hr.2.2.1⟩
    have hrefused := h.refused
    have hgated := h.gated
    simp only [hasked, hasked', hexposed, if_false, not_false_eq_true, iff_true]
    grind [permissiveness]

end MoreEvidence

theorem evaluate_risk {r : AuthorizationRequest} (hdecision : (evaluate r).decision ≠ .allow)
    (hpolicy : (evaluate r).policyId ≠ some "POLICY-RISK-ELEVATION") (riskLevel : Option RiskLevel) :
    evaluate { r with riskLevel := riskLevel } = evaluate r := by
  have hcustodian : notCustodian { r with riskLevel := riskLevel } = notCustodian r := rfl
  simp only [evaluate, hcustodian] at hdecision hpolicy ⊢
  split_ifs at hdecision hpolicy ⊢ <;> first | rfl | exact absurd rfl hdecision | exact absurd rfl hpolicy

theorem evidence_monotone : (∀ r r', MoreEvidence r r' →
      (permissiveness (evaluate r).decision ≤ permissiveness (evaluate r').decision ↔
        ¬ Exposed r r')) ∧
    ∀ r riskLevel, (evaluate r).decision ≠ .allow →
      (evaluate r).policyId ≠ some "POLICY-RISK-ELEVATION" →
        (evaluate { r with riskLevel := riskLevel }).decision ≠ .allow := by
  refine ⟨fun r r' h => h.le_iff, fun r riskLevel hdecision hpolicy => ?_⟩
  rw [evaluate_risk hdecision hpolicy]
  exact hdecision

theorem evidence_monotone_sample :
    permissiveness (evaluate strangerRequest).decision ≤
        permissiveness (evaluate { strangerRequest with stepUpAuthenticated := true }).decision ∧
      (evaluate { strangerRequest with riskLevel := none }).decision ≠ .allow := by
  have hmore : MoreEvidence strangerRequest { strangerRequest with stepUpAuthenticated := true } := by
    constructor
    case permissions => exact List.Subset.refl _
    case stepUpAuthenticated => exact fun _ => rfl
    case approvalStatus => exact .inl rfl
    case approvalRequired => exact id
    case riskLevel => exact le_rfl
    all_goals rfl
  refine ⟨(evidence_monotone.1 _ _ hmore).mpr fun hexposed => ?_,
    evidence_monotone.2 strangerRequest none (by decide) (by decide)⟩
  exact absurd hexposed.2.1.2 (by decide)

/-- The step-up of a stranger turns the challenge of a HIGHLY_SENSITIVE transfer into its denial. -/
theorem not_evidence_monotone : ¬ ∀ r : AuthorizationRequest, r.stepUpAuthenticated = false →
    permissiveness (evaluate r).decision ≤
      permissiveness (evaluate { r with stepUpAuthenticated := true }).decision := by
  intro h
  have hle := h (strangerRequest.withClassification .highlySensitive) rfl
  exact absurd hle (by decide)

end Sampraan.Assets
