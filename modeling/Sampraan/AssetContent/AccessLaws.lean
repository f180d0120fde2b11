import Sampraan.AssetContent.Access
import Sampraan.Assets.EngineLaws
import Sampraan.Library.Recall

/-! What the content access policy lets through, and how that changes with what it is asked about. -/

namespace Sampraan.AssetContent

open Backend Library
open Did (hasValidStepUp stepUpValidityMs verifiedSince)
open Assets (permissiveness sensitivity)

/-! ### The decision for given answers -/

/-- The four checks before the grants are looked up. -/
def Enters (identity : IdentityRow) (asset : AssetRow) : Prop :=
  identity.status = .active ∧ identity.lifecycleState = .verified ∧ asset.status ≠ .revoked

instance (identity : IdentityRow) (asset : AssetRow) : Decidable (Enters identity asset) := by
  unfold Enters
  infer_instance

/-- Access, then the permission, then the restriction of the classification. -/
def Standing.Passes (standing : Standing) (asset : AssetRow) (action : ContentAction) : Prop :=
  standing.hasAccess asset action = true ∧ (standing.holdsPermission = true ∨ action = .view) ∧
    (action = .view → isSensitiveOrAbove asset.classification = true → standing.isRelated = true)

instance (standing : Standing) (asset : AssetRow) (action : ContentAction) :
    Decidable (standing.Passes asset action) := by
  unfold Standing.Passes
  infer_instance

def Standing.decision (standing : Standing) (asset : AssetRow) (action : ContentAction)
    (steppedUp : Bool) : AuditDecision :=
  if ¬ standing.Passes asset action then .deny
  else if needsStepUp asset action && !steppedUp then .challenge
  else .allow

/-- The decision once `grants` and `steppedUp` have been answered. -/
def contentDecision (actor : ContentActor) (asset : AssetRow) (action : ContentAction)
    (grants : List GrantPermission) (steppedUp : Bool) : AuditDecision :=
  match actor.identity with
  | none => .deny
  | some identity =>
    if Enters identity asset then
      (standingOf actor identity.id asset action grants).decision asset action steppedUp
    else .deny

/-! ### The policy decides from the answers -/

section

variable (env : Environment)

/-- A grant that was active when a statement of the call looked. -/
def LiveGrant (asset : AssetRow) (identityId : String) (h : List (World × World))
    (permission : GrantPermission) : Prop :=
  ∃ e ∈ h, ∃ grant ∈ e.1.assetAccessGrants, grant.assetId = asset.id ∧
    grant.granteeIdentityId = identityId ∧ grant.revokedAt = none ∧ grant.permission = permission

/-- A step-up for the purpose that was in force when a statement of the call looked. -/
def SteppedUp (identityId purpose : String) (h : List (World × World)) : Prop :=
  ∃ e ∈ h, ∃ row ∈ e.1.stepUpSessions,
    verifiedSince identityId purpose (e.1.now - stepUpValidityMs) row = true

/-- The decision is that for some answers, each found in the database. -/
def DecidedBy (actor : ContentActor) (asset : AssetRow) (action : ContentAction) (purpose : String)
    (d : ContentAccessDecision) (h : List (World × World)) : Prop :=
  ∃ grants steppedUp, d.decision = contentDecision actor asset action grants steppedUp ∧
    ∀ identity, actor.identity = some identity →
      (∀ permission ∈ grants, LiveGrant asset identity.id h permission) ∧
        (steppedUp = true → SteppedUp identity.id purpose h)

variable {h : List (World × World)}

theorem listActiveAssetAccessGrants_yields (asset : AssetRow) (identityId : String) :
    (listActiveAssetAccessGrants env asset.id identityId).Yields (fun _ s t => t = s)
      (fun grants h' => ∀ permission ∈ grants, LiveGrant asset identityId h' permission) h := by
  apply Async.Yields.ite
  · intro _
    exact .fulfilled fun permission hmem => absurd hmem (List.not_mem_nil)
  · intro _
    apply Async.yields_query fun _ => rfl
    intro w permission hmem
    obtain ⟨grant, hgrant, hpermission⟩ := List.mem_map.mp hmem
    obtain ⟨hrow, hkeys⟩ := List.mem_filter.mp hgrant
    simp only [Bool.and_eq_true, beq_iff_eq, Option.isNone_iff_eq_none] at hkeys
    exact ⟨(w, w), by simp, grant, hrow, hkeys.1.1, hkeys.1.2, hkeys.2, hpermission⟩

theorem hasValidStepUp_yields (identityId purpose : String) :
    (hasValidStepUp env identityId purpose).Yields (fun _ s t => t = s)
      (fun satisfied h' => h <+: h' ∧ (satisfied = true → SteppedUp identityId purpose h')) h := by
  apply Async.Yields.ite
  · intro _
    exact .fulfilled ⟨List.prefix_refl h, fun hfalse => by cases hfalse⟩
  · intro _
    apply Async.yields_query fun _ => rfl
    refine fun w => ⟨List.prefix_append _ _, fun hfound => ?_⟩
    obtain ⟨row, hrow⟩ := Option.isSome_iff_exists.mp hfound
    have hnewest := Table.newest_eq_some hrow
    exact ⟨(w, w), by simp, row, hnewest.1, hnewest.2⟩

theorem satisfiesStepUp_yields (identity : IdentityRow) (asset : AssetRow) (action : ContentAction)
    (purpose : String) : (satisfiesStepUp env identity asset action purpose).Yields (fun _ s t => t = s)
      (fun satisfied h' => h <+: h' ∧ ∃ steppedUp,
        satisfied = !(needsStepUp asset action && !steppedUp) ∧
          (steppedUp = true → SteppedUp identity.id purpose h')) h := by
  apply Async.Yields.ite
  · intro hneeds
    apply (hasValidStepUp_yields env identity.id purpose).weaken
    exact fun satisfied h' ⟨hstart, hfound⟩ => ⟨hstart, satisfied, by simp [hneeds], hfound⟩
  · intro hneeds
    have hfalse : needsStepUp asset action = false := by simpa using hneeds
    exact .fulfilled ⟨List.prefix_refl h, false, by simp [hfalse], fun hfalse => by cases hfalse⟩

theorem evaluateStanding_yields (actor : ContentActor) (identity : IdentityRow) (asset : AssetRow)
    (action : ContentAction) (purpose : String) (standing : Standing) :
    (evaluateStanding env actor identity asset action purpose standing).Yields (fun _ s t => t = s)
      (fun d h' => h <+: h' ∧ ∃ steppedUp, d.decision = standing.decision asset action steppedUp ∧
        (steppedUp = true → SteppedUp identity.id purpose h')) h := by
  have hdenied (d : ContentAccessDecision) (hd : d.decision = .deny)
      (hpasses : ¬ standing.Passes asset action) : h <+: h ∧ ∃ steppedUp,
      d.decision = standing.decision asset action steppedUp ∧
        (steppedUp = true → SteppedUp identity.id purpose h) := by
    refine ⟨List.prefix_refl h, false, ?_, fun hfalse => by cases hfalse⟩
    rw [Standing.decision, if_pos hpasses, hd]
  apply Async.Yields.ite
  · intro haccess
    refine .fulfilled (hdenied _ rfl fun hpasses => ?_)
    simp [hpasses.1] at haccess
  intro haccess
  apply Async.Yields.ite
  · intro hpermission
    refine .fulfilled (hdenied _ rfl fun hpasses => ?_)
    simp only [Bool.and_eq_true, Bool.not_eq_true', bne_iff_ne] at hpermission
    rcases hpasses.2.1 with hholds | hview
    · exact absurd (hholds.symm.trans hpermission.1) (by decide)
    · exact hpermission.2 hview
  intro hpermission
  apply Async.Yields.ite
  · intro hsensitive
    refine .fulfilled (hdenied _ rfl fun hpasses => ?_)
    simp only [Bool.and_eq_true, Bool.not_eq_true', beq_iff_eq] at hsensitive
    have hrelated := hpasses.2.2 hsensitive.1.1 hsensitive.1.2
    exact absurd (hrelated.symm.trans hsensitive.2) (by decide)
  intro hsensitive
  have hpasses : standing.Passes asset action := by
    refine ⟨by simpa using haccess, ?_, fun hview habove => ?_⟩
    · by_contra hnone
      simp only [not_or] at hnone
      exact hpermission (by simpa [bne_iff_ne] using hnone)
    · by_contra hnone
      exact hsensitive (by simpa [hview, habove] using hnone)
  apply (satisfiesStepUp_yields env identity asset action purpose).bind
  rintro satisfied h' ⟨hstart, steppedUp, hsatisfied, hfound⟩
  refine .fulfilled ⟨hstart, steppedUp, ?_, hfound⟩
  rw [Standing.decision, if_neg (not_not.mpr hpasses), hsatisfied]
  cases needsStepUp asset action && !steppedUp <;> rfl

theorem contentDecision_of_enters {actor : ContentActor} {identity : IdentityRow}
    (hidentity : actor.identity = some identity) {asset : AssetRow} (hin : Enters identity asset)
    (action : ContentAction) (grants : List GrantPermission) (steppedUp : Bool) :
    contentDecision actor asset action grants steppedUp =
      (standingOf actor identity.id asset action grants).decision asset action steppedUp := by
  simp only [contentDecision, hidentity, if_pos hin]

theorem contentDecision_of_barred {actor : ContentActor} {asset : AssetRow}
    (hout : ∀ identity, actor.identity = some identity → ¬ Enters identity asset)
    (action : ContentAction) (grants : List GrantPermission) (steppedUp : Bool) :
    contentDecision actor asset action grants steppedUp = .deny := by
  unfold contentDecision
  cases hidentity : actor.identity with
  | none => rfl
  | some identity => exact if_neg (hout identity hidentity)

theorem evaluateContentAccess_yields (actor : ContentActor) (asset : AssetRow) (action : ContentAction)
    (purpose : String) : (evaluateContentAccess env actor asset action purpose).Yields
      (fun _ s t => t = s) (DecidedBy actor asset action purpose) [] := by
  have hbarred (d : ContentAccessDecision) (hd : d.decision = .deny)
      (hout : ∀ identity, actor.identity = some identity → ¬ Enters identity asset) :
      DecidedBy actor asset action purpose d [] := by
    refine ⟨[], false, hd.trans (contentDecision_of_barred hout action [] false).symm, ?_⟩
    exact fun identity _ => ⟨fun permission hmem => absurd hmem List.not_mem_nil,
      fun hfalse => by cases hfalse⟩
  unfold evaluateContentAccess
  cases hidentity : actor.identity with
  | none =>
    refine .fulfilled (hbarred _ rfl fun identity hsome => ?_)
    cases hidentity.symm.trans hsome
  | some identity =>
    have hout (hnot : ¬ Enters identity asset) (other : IdentityRow)
        (hsome : actor.identity = some other) : ¬ Enters other asset := by
      cases hidentity.symm.trans hsome
      exact hnot
    apply Async.Yields.ite fun hstatus => .fulfilled (hbarred _ rfl (hout fun hin => hstatus hin.1))
    intro hstatus
    apply Async.Yields.ite fun hstate => .fulfilled (hbarred _ rfl (hout fun hin => hstate hin.2.1))
    intro hstate
    apply Async.Yields.ite fun hrevoked =>
      .fulfilled (hbarred _ rfl (hout fun hin => hin.2.2 hrevoked))
    intro hrevoked
    have hin : Enters identity asset := ⟨not_not.mp hstatus, not_not.mp hstate, hrevoked⟩
    apply (listActiveAssetAccessGrants_yields env asset identity.id).bind
    intro grants h' hgrants
    apply (evaluateStanding_yields env actor identity asset action purpose _).weaken
    rintro d h'' ⟨hstart, steppedUp, hdecision, hfound⟩
    refine ⟨grants, steppedUp, ?_, fun other hsome => ?_⟩
    · rw [hdecision, contentDecision_of_enters hidentity hin]
    · cases hidentity.symm.trans hsome
      refine ⟨fun permission hmem => ?_, hfound⟩
      obtain ⟨e, he, hgrant⟩ := hgrants permission hmem
      exact ⟨e, hstart.subset he, hgrant⟩

end

/-! ### What is allowed -/

/-- What an allowed operation has to show. -/
structure Entitled (actor : ContentActor) (identity : IdentityRow) (asset : AssetRow)
    (action : ContentAction) (grants : List GrantPermission) (steppedUp : Bool) : Prop where
  status : identity.status = .active
  lifecycleState : identity.lifecycleState = .verified
  notRevoked : asset.status ≠ .revoked
  viewer : action = .view → isSensitiveOrAbove asset.classification = true →
    actor.isPlatformAdmin = true ∨ "ADMIN" ∈ actor.roles ∨ identity.id = asset.ownerIdentityId ∨
      identity.id = asset.custodianIdentityId ∨ grants ≠ []
  editor : action = .edit ∨ action = .upload →
    actor.isPlatformAdmin = true ∨ "ADMIN" ∈ actor.roles ∨ identity.id = asset.ownerIdentityId ∨
      identity.id = asset.custodianIdentityId ∨ .edit ∈ grants
  permission : action = .edit ∨ action = .upload →
    actor.isPlatformAdmin = true ∨ "ADMIN" ∈ actor.roles ∨
      actionPermission action ∈ actor.permissions ∨ "administration:manage" ∈ actor.permissions
  stepUp : (action = .view ∧ isSensitiveOrAbove asset.classification = true) ∨ action = .edit ∨
    action = .upload → steppedUp = true

theorem Standing.allows {standing : Standing} {asset : AssetRow} {action : ContentAction}
    {steppedUp : Bool} (hallow : standing.decision asset action steppedUp = .allow) :
    standing.Passes asset action ∧ (needsStepUp asset action = true → steppedUp = true) := by
  unfold Standing.decision at hallow
  split at hallow
  · cases hallow
  · rename_i hpasses
    refine ⟨not_not.mp hpasses, fun hneeds => ?_⟩
    by_contra hnot
    simp [hneeds, hnot] at hallow

theorem contentDecision_allow {actor : ContentActor} {asset : AssetRow} {action : ContentAction}
    {grants : List GrantPermission} {steppedUp : Bool}
    (hallow : contentDecision actor asset action grants steppedUp = .allow) :
    ∃ identity, actor.identity = some identity ∧
      Entitled actor identity asset action grants steppedUp := by
  cases hidentity : actor.identity with
  | none => simp [contentDecision, hidentity] at hallow
  | some identity =>
    by_cases hin : Enters identity asset
    case neg => simp [contentDecision, hidentity, hin] at hallow
    rw [contentDecision_of_enters hidentity hin] at hallow
    obtain ⟨⟨haccess, hpermission, hrelated⟩, hstep⟩ := Standing.allows hallow
    have hsome : ∀ grant : GrantPermission, grant ∈ grants → grants ≠ [] :=
      fun grant hmem => List.ne_nil_of_mem hmem
    refine ⟨identity, rfl, hin.1, hin.2.1, hin.2.2, fun hview habove => ?_, fun hedit => ?_,
      fun hedit => ?_, fun hasked => hstep ?_⟩
    · have hrel := hrelated hview habove
      simp only [Standing.isRelated, standingOf, Bool.or_eq_true, beq_iff_eq, List.contains_iff_mem,
        List.any_eq_true] at hrel
      grind
    · have hrel : (standingOf actor identity.id asset action grants).hasAccess asset .edit = true := by
        rcases hedit with rfl | rfl <;> exact haccess
      simp only [Standing.hasAccess, standingOf, Bool.or_eq_true, beq_iff_eq, List.contains_iff_mem,
        List.any_eq_true] at hrel
      grind
    · have hholds := hpermission.resolve_right (by rcases hedit with rfl | rfl <;> simp)
      simp only [standingOf, Bool.or_eq_true, List.contains_iff_mem] at hholds
      grind
    · rcases hasked with ⟨rfl, habove⟩ | rfl | rfl
      · exact habove
      · rfl
      · rfl

/-! ### Pairs of requests -/

/-- Whatever the first standing has, the second has. -/
structure Standing.Below (standing standing' : Standing) : Prop where
  isAdmin : standing.isAdmin = true → standing'.isAdmin = true
  isOwner : standing.isOwner = true → standing'.isOwner = true
  isCustodian : standing.isCustodian = true → standing'.isCustodian = true
  hasViewGrant : standing.hasViewGrant = true → standing'.hasViewGrant = true
  hasEditGrant : standing.hasEditGrant = true → standing'.hasEditGrant = true
  holdsPermission : standing.holdsPermission = true → standing'.holdsPermission = true

theorem Standing.Below.passes {standing standing' : Standing} (h : standing.Below standing')
    {asset : AssetRow} {action : ContentAction} (hpasses : standing.Passes asset action) :
    standing'.Passes asset action := by
  obtain ⟨haccess, hpermission, hrelated⟩ := hpasses
  obtain ⟨hadmin, howner, hcustodian, hview, hedit, hholds⟩ := h
  refine ⟨?_, hpermission.imp_left hholds, fun haction habove => ?_⟩
  · cases action <;> simp only [Standing.hasAccess, Bool.or_eq_true, Bool.and_eq_true] at haccess ⊢
    case view =>
      exact haccess.imp (.imp (.imp (.imp (.imp hadmin howner) hcustodian) hview) hedit)
        (And.imp_left hholds)
    case edit => exact haccess.imp (.imp (.imp hadmin howner) hcustodian) hedit
    case upload => exact haccess.imp (.imp (.imp hadmin howner) hcustodian) hedit
    case manageAccess => exact haccess.imp hadmin howner
  · have hrel := hrelated haction habove
    simp only [Standing.isRelated, Bool.or_eq_true] at hrel ⊢
    exact hrel.imp (.imp (.imp (.imp hadmin howner) hcustodian) hview) hedit

theorem Standing.decision_le {standing standing' : Standing} {asset asset' : AssetRow}
    {action : ContentAction} {steppedUp : Bool}
    (hpasses : standing.Passes asset action → standing'.Passes asset' action)
    (hneeds : needsStepUp asset' action = true → needsStepUp asset action = true) :
    permissiveness (standing.decision asset action steppedUp) ≤
      permissiveness (standing'.decision asset' action steppedUp) := by
  unfold Standing.decision
  by_cases hp : standing.Passes asset action
  case neg => simp [hp, permissiveness]
  simp only [hp, hpasses hp, not_true_eq_false, if_false]
  cases hn : needsStepUp asset action with
  | true => cases needsStepUp asset' action <;> cases steppedUp <;> decide
  | false =>
    have hn' : needsStepUp asset' action = false := by
      by_contra hne
      simp [hneeds (by simpa using hne)] at hn
    simp [hn']

theorem isSensitiveOrAbove_iff (c : AssetClassification) :
    isSensitiveOrAbove c = true ↔ 2 ≤ sensitivity c := by
  cases c <;> decide

theorem isHighlySensitive_iff (c : AssetClassification) :
    isHighlySensitive c = true ↔ 3 ≤ sensitivity c := by
  cases c <;> decide

theorem needsStepUp_of_le {asset : AssetRow} {c c' : AssetClassification}
    (hle : sensitivity c ≤ sensitivity c') {action : ContentAction}
    (hneeds : needsStepUp { asset with classification := c } action = true) :
    needsStepUp { asset with classification := c' } action = true := by
  cases action with
  | view =>
    have habove : 2 ≤ sensitivity c := (isSensitiveOrAbove_iff c).mp hneeds
    exact (isSensitiveOrAbove_iff c').mpr (habove.trans hle)
  | edit => rfl
  | upload => rfl
  | manageAccess => cases hneeds

theorem Standing.passes_of_le (standing : Standing) {asset : AssetRow} {c c' : AssetClassification}
    (hle : sensitivity c ≤ sensitivity c') {action : ContentAction}
    (hpasses : standing.Passes { asset with classification := c' } action) :
    standing.Passes { asset with classification := c } action := by
  obtain ⟨haccess, hpermission, hrelated⟩ := hpasses
  refine ⟨?_, hpermission, fun hview habove => hrelated hview ?_⟩
  · cases action with
    | view =>
      simp only [Standing.hasAccess, Bool.or_eq_true, Bool.and_eq_true, Bool.not_eq_true'] at haccess ⊢
      refine haccess.imp_right fun ⟨hholds, hlow⟩ => ⟨hholds, ?_⟩
      by_contra hhigh
      have hc : 3 ≤ sensitivity c := (isHighlySensitive_iff c).mp (by simpa using hhigh)
      simp [(isHighlySensitive_iff c').mpr (hc.trans hle)] at hlow
    | edit => exact haccess
    | upload => exact haccess
    | manageAccess => exact haccess
  · have hc : 2 ≤ sensitivity c := (isSensitiveOrAbove_iff c).mp habove
    exact (isSensitiveOrAbove_iff c').mpr (hc.trans hle)

theorem contentDecision_antitone (actor : ContentActor) (asset : AssetRow) (action : ContentAction)
    (grants : List GrantPermission) (steppedUp : Bool) {c c' : AssetClassification}
    (hle : sensitivity c ≤ sensitivity c') :
    permissiveness (contentDecision actor { asset with classification := c' } action grants steppedUp) ≤
      permissiveness (contentDecision actor { asset with classification := c } action grants
        steppedUp) := by
  unfold contentDecision
  cases actor.identity with
  | none => exact le_rfl
  | some identity =>
    have hsame : Enters identity { asset with classification := c' } ↔
        Enters identity { asset with classification := c } := Iff.rfl
    by_cases hin : Enters identity { asset with classification := c }
    case neg => simp only [hsame, hin, if_false, le_refl]
    simp only [hsame, hin, if_true]
    exact Standing.decision_le (Standing.passes_of_le _ hle) (needsStepUp_of_le hle)

theorem contentDecision_mono (actor : ContentActor) (asset : AssetRow) (action : ContentAction)
    {grants grants' : List GrantPermission} (hgrants : grants ⊆ grants') {permissions : List String}
    (hpermissions : actor.permissions ⊆ permissions) (steppedUp : Bool) :
    permissiveness (contentDecision actor asset action grants steppedUp) ≤
      permissiveness (contentDecision { actor with permissions := permissions } asset action grants'
        steppedUp) := by
  unfold contentDecision
  cases actor.identity with
  | none => exact le_rfl
  | some identity =>
    by_cases hin : Enters identity asset
    case neg => simp only [hin, if_false, le_refl]
    simp only [hin, if_true]
    apply Standing.decision_le _ id
    apply Standing.Below.passes
    constructor
    case hasViewGrant =>
      simp only [standingOf, List.any_eq_true]
      exact fun ⟨grant, hmem, hgrant⟩ => ⟨grant, hgrants hmem, hgrant⟩
    case hasEditGrant =>
      simp only [standingOf, List.any_eq_true]
      exact fun ⟨grant, hmem, hgrant⟩ => ⟨grant, hgrants hmem, hgrant⟩
    case holdsPermission =>
      simp only [standingOf, Bool.or_eq_true, List.contains_iff_mem]
      rintro ((hadmin | hpermission) | hmanage)
      · exact .inl (.inl hadmin)
      · exact .inl (.inr (hpermissions hpermission))
      · exact .inr (hpermissions hmanage)
    all_goals exact id

def plainAsset : AssetRow where
  id := "asset-row"
  assetId := "ASSET-1"
  classification := .publicAsset

def platformAdmin : ContentActor where
  isPlatformAdmin := true
  identity := sampleWorld.identities.head?
  roles := []
  permissions := ["administration:manage"]

def steppedUpWorld : World :=
  { sampleWorld with
    stepUpSessions :=
      [{ id := "session"
         identityId := "holder"
         purpose := "content-edit:asset-row"
         nonce := "nonce"
         expiresAt := 1700000300000
         consumedAt := some 1699999999000 }] }

end Sampraan.AssetContent
