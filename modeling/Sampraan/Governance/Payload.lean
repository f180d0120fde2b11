import Sampraan.CryptoAssurance.DualSignature
import Sampraan.Governance.Downgrade

/-! Which proposals one signed payload authorizes. -/

namespace Sampraan.Governance

open Backend Library CryptoAssurance Relation

variable {env : Environment} {w₀ : World} {row : AssuranceChallengeRow} {x y : ProposeInput}

/-- In some run the grant of the challenge, whose signatures had been verified, was accepted for
what the input proposes. -/
def AcceptedFor (env : Environment) (w₀ : World) (row : AssuranceChallengeRow)
    (input : ProposeInput) : Prop :=
  ∃ c i user p s t, (governanceSystem env).Reachable w₀ c ∧
    c.threads i = some ⟨.propose user { input with assuranceGrantId := some row.id }, p⟩ ∧
      (i, s, t) ∈ c.log ∧ Executes row.id s t ∧ row ∈ s.assuranceChallenges ∧
        ∃ k user' signed result, c.Returned k (.verify user' signed) (.verified result) ∧
          result.grantId? = some row.id

/-- No payload authorizes both proposals: no challenge has a grant that is accepted for the one and
for the other. -/
def PayloadFixesAction (x y : ProposeInput) : Prop :=
  ∀ env w₀ row row', w₀.assuranceChallenges = [] → AcceptedFor env w₀ row x →
    AcceptedFor env w₀ row' y → AssuranceChallengeRow.core row ≠ AssuranceChallengeRow.core row'

/-- The gate asks for no grant when a pause or an unpause names no asset. -/
def Ungated (input : ProposeInput) : Prop :=
  input.kind ∈ [.pauseRegistry, .unpauseRegistry] ∧ input.assetId.getD "" = ""

/-! ### What an accepted grant fixes -/

theorem pause_or_unpause {kind : GovernanceKind} (h : kind ∈ [.pauseRegistry, .unpauseRegistry]) :
    kind = .pauseRegistry ∨ kind = .unpauseRegistry := by
  simpa using h

theorem gateClassificationIn_of_ungated (hinput : Ungated x) (w : World) :
    gateClassificationIn env x.gate w = none := by
  have hasset : x.gate.assetId.getD "" = "" := hinput.2
  have htarget : x.gate.kind ∉ governanceKindsWithAssetTarget := by
    have hkind : x.gate.kind = .pauseRegistry ∨ x.gate.kind = .unpauseRegistry :=
      pause_or_unpause hinput.1
    rcases hkind with hkind | hkind
    · rw [hkind]
      decide
    · rw [hkind]
      decide
  rw [gateClassificationIn, if_neg (not_not.mpr hasset), if_neg htarget]

theorem gateDecision_of_ungated {actor : Actor} (hinput : Ungated x)
    (hadmin : hasRole actor "ADMIN" = true) :
    (gateDecision actor x.kind none).requiresDualSignature = false := by
  rw [gateDecision, gateRole, if_pos hadmin]
  rcases pause_or_unpause hinput.1 with hkind | hkind
  · rw [hkind]
    decide
  · rw [hkind]
    decide

theorem AcceptedFor.bound (h₀ : w₀.assuranceChallenges = []) (h : AcceptedFor env w₀ row x) :
    row.operation = governanceKindToOperation x.kind ∧ row.resourceId = gateResourceId x.gate ∧
      ¬ Ungated x := by
  obtain ⟨c, i, user, p, s, t, hc, hi, he, hexec, hrow, -⟩ := h
  obtain ⟨actor, classification, hadmin, hop, hresource, hread, hdual⟩ :=
    bound_of_executes h₀ hc hi he hexec hrow
  refine ⟨hop, hresource, fun hungated => ?_⟩
  have hnone : classification = none := by
    rcases hread with ⟨w, -, hread⟩ | hread
    · exact hread.trans (gateClassificationIn_of_ungated hungated w)
    · exact (hread w₀).trans (gateClassificationIn_of_ungated hungated w₀)
  rw [hnone] at hdual
  exact absurd (hdual.symm.trans (gateDecision_of_ungated hungated hadmin)) (by decide)

theorem payloadFixesAction_of_ne (h : governanceKindToOperation x.kind ≠
      governanceKindToOperation y.kind ∨ gateResourceId x.gate ≠ gateResourceId y.gate ∨
        Ungated x ∨ Ungated y) : PayloadFixesAction x y := by
  intro env w₀ row row' h₀ hx hy hcore
  obtain ⟨hop, hresource, hgated⟩ := hx.bound h₀
  obtain ⟨hop', hresource', hgated'⟩ := hy.bound h₀
  have hoperation : row.operation = row'.operation :=
    (congrArg AssuranceChallengeRow.operation hcore :)
  have hresourceId : row.resourceId = row'.resourceId :=
    (congrArg AssuranceChallengeRow.resourceId hcore :)
  rcases h with h | h | h | h
  · exact h (hop.symm.trans (hoperation.trans hop'))
  · exact h (hresource.symm.trans (hresourceId.trans hresource'))
  · exact hgated h
  · exact hgated' h

/-! ### A challenge from its issue to its grant -/

section

variable {w w' : World}

theorem insert_ends {f : World → Option World} (h : f w = some w') :
    (Backend.insert f).Ends w () w' := by
  have hdone : ∀ g : World → Bool × World, g w = (true, w') →
      (Async.statement g : Promise Bool).Ends w true w' := by
    intro g hg
    have hstatement := Async.ends_statement (ε := Error) (s := w) (f := g)
    rwa [hg] at hstatement
  apply (hdone _ (by simp only [h])).bind
  rw [if_pos rfl]
  exact Async.ends_pure

theorem persistChallenge_ends (hconf : env.databaseConfigured = true) (issue : IssueAssuranceInput)
    (ecdsaKey : String) (pqcKey : Option String) (hw : w.assuranceChallenges = []) :
    ∃ result events,
      (persistChallenge env issue ecdsaKey pqcKey).Ends w (.issued issue.decision result)
        { w with
          assuranceChallenges := [challengeRow env issue ecdsaKey pqcKey w.now
            (w.now + assuranceChallengeTtlMs)]
          auditEvents := events } := by
  have hcreate : ∀ row, (createAssuranceChallenge env row).Ends w (some row)
      { w with assuranceChallenges := [row] } := by
    intro row
    have hinsert : insertChallenge row w = some { w with assuranceChallenges := [row] } := by
      simp [insertChallenge, hw]
    rw [createAssuranceChallenge, if_neg (by simp [hconf])]
    exact (insert_ends hinsert).bind (Async.ends_query (by simp))
  exact ⟨_, _, (Async.ends_query rfl).bind ((Async.ends_query rfl).bind ((hcreate _).bind
    ((createAuditEvent_ends hconf _ _).bind Async.ends_pure)))⟩

end

def payloadWorld (assets : List AssetRow) (publicKey : String) : World :=
  { sampleWorld with
    pqcKeyRecords := [hardenedKey publicKey]
    assets := assets }

/-- The challenge request declares a critical risk, whatever the operation. -/
def payloadChallenge (operation : AssuranceOperation) (resourceId : String) : ChallengeInput :=
  { pauseChallenge with
    operation := operation
    resourceId := resourceId
    riskLevel := some .critical }

def holder : Actor where
  identity :=
    { id := "holder"
      linkedUserId := some 1
      displayName := "Holder"
      status := .active
      did := "did:sampraan:holder"
      lifecycleState := .verified }
  roles := ["ADMIN"]

def payloadRow (operation : AssuranceOperation) (resourceId : String) : AssuranceChallengeRow :=
  challengeRow sampleEnvironment ((payloadChallenge operation resourceId).issue holder) "key-1"
    (some "pqc-key-1") 1700000000000 1700000300000

def consumedPayload (operation : AssuranceOperation) (resourceId : String) :
    AssuranceChallengeRow :=
  { payloadRow operation resourceId with consumedAt := some 1700000000000 }

def verifiedPayload (operation : AssuranceOperation) (resourceId : String) :
    AssuranceChallengeRow :=
  { consumedPayload operation resourceId with
    ecdsaVerified := true
    pqcVerified := true }

def payloadState (assets : List AssetRow) (publicKey : String) (row : AssuranceChallengeRow)
    (events : List AuditEventRow) : World :=
  { payloadWorld assets publicKey with
    assuranceChallenges := [row]
    auditEvents := events }

def payloadVerify (signature : String) : VerifyInput where
  nonce := "nonce"
  ecdsaSignature := "signed by the holder"
  pqcSignature := some signature

section

variable (operation : AssuranceOperation) (resourceId : String)

theorem payload_hardened :
    ((payloadChallenge operation resourceId).issue holder).decision.level = .quantumHardened :=
  assuranceLevel_eq_quantumHardened.mpr (.inr (.inr (.inl rfl)))

theorem payload_dual :
    ((payloadChallenge operation resourceId).issue holder).decision.requiresDualSignature = true :=
  requiresDualSignature_iff.mpr (.inr (.inr (.inl rfl)))

variable (assets : List AssetRow) (publicKey : String) {w : World}

theorem sessionActor_ends (hidentities : w.identities = sampleWorld.identities)
    (hroles : w.identityRoles = sampleWorld.identityRoles) :
    (CryptoAssurance.requireActor sampleEnvironment (some 1)).Ends w holder w := by
  refine ⟨[(w, w), (w, w)], ?_, rfl⟩
  obtain ⟨⟩ := w
  cases hidentities
  cases hroles
  exact .pending rfl (.pending rfl (.fulfilled _ _))

theorem challenge_ends : ∃ result events, (challenge sampleEnvironment (some 1)
    (payloadChallenge operation resourceId)).Ends (payloadWorld assets publicKey) result
      (payloadState assets publicKey (payloadRow operation resourceId) events) := by
  have hconf : sampleEnvironment.databaseConfigured = true := rfl
  obtain ⟨result, events, hpersist⟩ := persistChallenge_ends (w := payloadWorld assets publicKey)
    hconf ((payloadChallenge operation resourceId).issue holder) "key-1" (some "pqc-key-1") rfl
  have hcrypto : (resolveActorCrypto sampleEnvironment "did:sampraan:holder").Ends
      (payloadWorld assets publicKey) (.resolved "key-1") (payloadWorld assets publicKey) :=
    ⟨_, .pending rfl (.fulfilled _ _), rfl⟩
  have hkey : (resolvePqcPublicKey sampleEnvironment "did:sampraan:holder").Ends
      (payloadWorld assets publicKey) (some (.ofRecord (hardenedKey publicKey)))
        (payloadWorld assets publicKey) :=
    ⟨_, .pending rfl (.fulfilled _ _), rfl⟩
  have hissue : (issueAssuranceChallenge sampleEnvironment
      ((payloadChallenge operation resourceId).issue holder)).Ends (payloadWorld assets publicKey)
        (.issued ((payloadChallenge operation resourceId).issue holder).decision result)
        (payloadState assets publicKey (payloadRow operation resourceId) events) := by
    have hbaseline : ((payloadChallenge operation resourceId).issue holder).decision.level ≠
        .baseline := by
      rw [payload_hardened]
      decide
    rw [issueAssuranceChallenge, if_neg hbaseline, if_neg (by simp [ChallengeInput.issue, holder])]
    refine hcrypto.bind ?_
    dsimp only
    rw [if_pos (payload_dual operation resourceId)]
    exact hkey.bind hpersist
  exact ⟨_, events, (sessionActor_ends (w := payloadWorld assets publicKey) rfl rfl).bind
    (hissue.bind Async.ends_pure)⟩

variable {publicKey} {signature : String} (events : List AuditEventRow)

theorem payload_answered (hne : signature ≠ "")
    (hverify : PqcVerifies sampleEnvironment (payloadRow operation resourceId).message publicKey
      signature) :
    Answered sampleEnvironment (hardenedVerify signature) (consumedPayload operation resourceId)
      (consumeChallengeIn "holder" "nonce"
        (payloadState assets publicKey (payloadRow operation resourceId) events)) where
  identity := ⟨_, rfl, rfl, rfl⟩
  key := ⟨_, rfl, rfl, rfl, rfl⟩
  audience := rfl
  ecdsa := ⟨"0xA11CE", rfl, by rfl⟩
  pqc _ := ⟨.ofRecord (hardenedKey publicKey), signature, rfl, rfl, rfl, hne, hverify⟩

theorem verify_ends (hne : signature ≠ "")
    (hverify : PqcVerifies sampleEnvironment (payloadRow operation resourceId).message publicKey
      signature) : ∃ result events', (verify sampleEnvironment (some 1) (payloadVerify signature)).Ends
      (payloadState assets publicKey (payloadRow operation resourceId) events) result
        (payloadState assets publicKey (verifiedPayload operation resourceId) events') ∧
          result.grantId? = some "challenge" := by
  have hok : ChallengesOk (payloadState assets publicKey (payloadRow operation resourceId) events) := by
    refine ⟨?_, ?_, ?_⟩ <;>
      simp [payloadState, payloadWorld, Table.UniqueKey, payloadRow, challengeRow]
  have hrow : consumedPayload operation resourceId ∈ (consumeChallengeIn "holder" "nonce"
      (payloadState assets publicKey (payloadRow operation resourceId) events)).assuranceChallenges :=
    List.mem_singleton_self _
  obtain ⟨result, events', hverified, hid⟩ := verifyAssuranceChallenge_accepts rfl hok
    ⟨payloadRow operation resourceId, List.mem_singleton_self _, rfl⟩ hrow rfl
    (payload_answered operation resourceId assets events hne hverify)
  have hactor := sessionActor_ends
    (w := payloadState assets publicKey (payloadRow operation resourceId) events) rfl rfl
  refine ⟨result, events', hactor.bind ?_, hid⟩
  dsimp only
  rw [if_neg (by decide)]
  have hstate : { markChallengeIn (consumedPayload operation resourceId).id true
      (decide (.mlDsa65 ∈ (consumedPayload operation resourceId).requiredAlgorithms))
        (consumeChallengeIn (hardenedVerify signature).identityId (hardenedVerify signature).nonce
          (payloadState assets publicKey (payloadRow operation resourceId) events)) with
      auditEvents := events' } =
        payloadState assets publicKey (verifiedPayload operation resourceId) events' := by
    have hpqc : decide (.mlDsa65 ∈ (consumedPayload operation resourceId).requiredAlgorithms) =
        true :=
      decide_eq_true (mlDsa65_mem_algorithmByLevel.mpr (payload_hardened operation resourceId))
    rw [hpqc]
    rfl
  rw [hstate] at hverified
  refine hverified.bind ?_
  cases result with
  | failed code reason => cases hid
  | ok grantId level operation resourceType resourceId algorithms => exact Async.ends_pure

end

/-! ### A grant from its lookup to its claim -/

section

variable {w : World} {id : String}

theorem claimAssuranceGrant_runs (hconf : env.databaseConfigured = true)
    {input : ClaimAssuranceInput} (hgrant : input.grantId = some id) (hne : id ≠ "")
    (hw : w.assuranceChallenges = [row])
    (hvalid : validGrant input id (w.now - assuranceGrantValidityMs) row = true) :
    (claimAssuranceGrant env input).Runs w (w, executeChallengeIn id w) := by
  have hid : row.id = id := (validGrant_eq_true.mp hvalid).1
  have hlookup : (findValidAssuranceGrant env input id).Ends w (some row) w := by
    rw [findValidAssuranceGrant, if_neg (by simp [hconf])]
    exact Async.ends_query (by simp [hw, hvalid])
  have hclaim : (claimAssuranceGrantExecution env row.id).Runs w (w, executeChallengeIn id w) := by
    rw [claimAssuranceGrantExecution, hid, if_neg (by simp [hconf])]
    exact List.mem_singleton_self _
  rw [claimAssuranceGrant, hgrant, Option.getD_some, if_neg hne]
  exact hlookup.runs_bind hclaim.bind

theorem gateClassification_ends (input : GovernanceAssuranceInput) :
    (gateClassification env input).Ends w (gateClassificationIn env input w) w := by
  have hsettles := Async.settles_alone (gateClassification env input) w
  rcases gateClassification_settles hsettles with ⟨t, rfl, hh, ho⟩ | ⟨hh, ho⟩
  · exact ⟨_, ho ▸ hsettles, by rw [hh, Async.lastState, Async.lastState]⟩
  · exact ⟨_, ho w ▸ hsettles, by rw [hh, Async.lastState]⟩

theorem requireGovernanceAssurance_runs (hconf : env.databaseConfigured = true) {actor : Actor}
    {input : GovernanceAssuranceInput} (hgrant : input.assuranceGrantId = some id) (hne : id ≠ "")
    (hw : w.assuranceChallenges = [row])
    (hvalid : validGrant (gateClaim actor input) id (w.now - assuranceGrantValidityMs) row = true)
    (hdual : (gateDecision actor input.kind
      (gateClassificationIn env input w)).requiresDualSignature = true) :
    (requireGovernanceAssurance env actor input).Runs w (w, executeChallengeIn id w) := by
  refine (gateClassification_ends input).runs_bind ?_
  dsimp only
  rw [hdual, Bool.not_true, if_neg Bool.false_ne_true]
  exact (claimAssuranceGrant_runs hconf hgrant hne hw hvalid).bind

end

/-! ### One payload for two proposals -/

section

variable {operation : AssuranceOperation} {resourceId publicKey signature : String}
  {assets : List AssetRow} {events : List AuditEventRow}

theorem propose_runs (hgrant : x.assuranceGrantId = some "challenge")
    (hoperation : operation = governanceKindToOperation x.kind)
    (hresource : resourceId = gateResourceId x.gate)
    (hdual : (gateDecision holder x.kind (gateClassificationIn sampleEnvironment x.gate
      (payloadState assets publicKey (verifiedPayload operation resourceId)
        events))).requiresDualSignature = true) :
    (propose sampleEnvironment (some 1) x).Runs
      (payloadState assets publicKey (verifiedPayload operation resourceId) events)
      (payloadState assets publicKey (verifiedPayload operation resourceId) events,
        executeChallengeIn "challenge"
          (payloadState assets publicKey (verifiedPayload operation resourceId) events)) := by
  have hactor : (requireActor sampleEnvironment (some 1)).Ends
      (payloadState assets publicKey (verifiedPayload operation resourceId) events) holder
        (payloadState assets publicKey (verifiedPayload operation resourceId) events) :=
    ⟨_, .pending rfl (.pending rfl (.fulfilled _ _)), rfl⟩
  have hvalid : validGrant (gateClaim holder x.gate) "challenge"
      (1700000000000 - assuranceGrantValidityMs) (verifiedPayload operation resourceId) = true :=
    validGrant_eq_true.mpr ⟨rfl, rfl, hoperation, rfl, hresource, _, rfl, by decide⟩
  have hconf : sampleEnvironment.databaseConfigured = true := rfl
  have hgrant' : x.gate.assuranceGrantId = some "challenge" := hgrant
  have hgate := requireGovernanceAssurance_runs hconf hgrant' (by decide) rfl hvalid hdual
  exact hactor.runs_bind (Async.ends_pure.runs_bind hgate.bind)

theorem acceptedFor_payload (hne : signature ≠ "")
    (hverify : PqcVerifies sampleEnvironment (payloadRow operation resourceId).message publicKey
      signature)
    (hoperation : operation = governanceKindToOperation x.kind)
    (hresource : resourceId = gateResourceId x.gate)
    (hdual : ∀ events, (gateDecision holder x.kind (gateClassificationIn sampleEnvironment x.gate
      (payloadState assets publicKey (verifiedPayload operation resourceId)
        events))).requiresDualSignature = true) :
    AcceptedFor sampleEnvironment (payloadWorld assets publicKey)
      (verifiedPayload operation resourceId) x := by
  obtain ⟨issued, events, hchallenge⟩ :=
    challenge_ends operation resourceId assets publicKey
  obtain ⟨verified, events', hverified, hid⟩ :=
    verify_ends operation resourceId assets events hne hverify
  have hruns := propose_runs (x := { x with assuranceGrantId := some "challenge" }) rfl hoperation
    hresource (hdual events')
  have hinit : (governanceSystem sampleEnvironment).Reachable (payloadWorld assets publicKey)
      (Config.initial (payloadWorld assets publicKey)) := .init
  obtain ⟨c₁, hc₁, hthreads₁, hshared₁⟩ := hinit.call_ends (i := 0)
    (k := .challenge (some 1) (payloadChallenge operation resourceId)) rfl
      (hchallenge.bind Async.ends_pure)
  rw [← hshared₁] at hverified
  obtain ⟨c₂, hc₂, hthreads₂, hshared₂⟩ := hc₁.call_ends (i := 1)
    (k := .verify (some 1) (payloadVerify signature)) (by simp [hthreads₁, Config.initial])
      (hverified.bind Async.ends_pure)
  rw [← hshared₂] at hruns
  obtain ⟨c₃, hc₃, hthreads₃, -, hlog₃⟩ := hc₂.call (i := 2)
    (k := .propose (some 1) { x with assuranceGrantId := some "challenge" })
    (by simp [hthreads₂, hthreads₁, Config.initial]) (Async.settles_alone _ _)
  obtain ⟨p, hthread⟩ : ∃ p, c₃.threads 2 =
      some ⟨.propose (some 1) { x with assuranceGrantId := some "challenge" }, p⟩ :=
    ⟨_, by rw [hthreads₃, Function.update_self]⟩
  have hlog : (2, c₂.shared, executeChallengeIn "challenge" c₂.shared) ∈ c₃.log := by
    rw [hlog₃]
    exact List.mem_append_right _ (List.mem_map_of_mem hruns.bind)
  have hrow : verifiedPayload operation resourceId ∈ c₂.shared.assuranceChallenges := by
    simp [hshared₂, payloadState]
  have hret : c₃.Returned 1 (.verify (some 1) (payloadVerify signature)) (.verified verified) := by
    rw [Config.Returned, hthreads₃, Function.update_of_ne (by decide), hthreads₂,
      Function.update_self]
  exact ⟨c₃, 2, some 1, p, c₂.shared, _, hc₃, hthread, hlog, ⟨rfl, _, hrow, rfl⟩, hrow, 1, some 1,
    payloadVerify signature, verified, hret, hid⟩

def payloadAssets (x y : ProposeInput) : List AssetRow :=
  [{ id := "first", assetId := x.assetId.getD "", classification := .critical },
    { id := "second", assetId := y.assetId.getD "", classification := .critical }]

theorem classification_of_payloadAssets {w : World} (hw : w.assets = payloadAssets x y)
    {input : ProposeInput} (hinput : input = x ∨ input = y) (hasset : input.assetId.getD "" ≠ "") :
    gateClassificationIn sampleEnvironment input.gate w = some "CRITICAL" := by
  have hcritical : ∀ asset ∈ w.assets, asset.classification = .critical := by
    rw [hw, payloadAssets]
    simp
  have hfound : (w.assets.find? (·.assetId == input.gate.assetId.getD "")).isSome := by
    rw [List.find?_isSome, hw, payloadAssets]
    rcases hinput with rfl | rfl
    · exact ⟨_, List.mem_cons_self, BEq.rfl⟩
    · exact ⟨_, List.mem_cons_of_mem _ List.mem_cons_self, BEq.rfl⟩
  obtain ⟨asset, hfind⟩ := Option.isSome_iff_exists.mp hfound
  have hclassification := hcritical asset (List.mem_of_find?_eq_some hfind)
  have hasset' : input.gate.assetId.getD "" ≠ "" := hasset
  rw [gateClassificationIn, if_pos hasset', if_neg (by decide), hfind, Option.map_some,
    hclassification]
  rfl

theorem dual_of_gated {w : World} (hw : w.assets = payloadAssets x y) {input : ProposeInput}
    (hinput : input = x ∨ input = y) (hgated : ¬ Ungated input) :
    (gateDecision holder input.kind
      (gateClassificationIn sampleEnvironment input.gate w)).requiresDualSignature = true := by
  by_cases hkind : input.kind ∈ [.pauseRegistry, .unpauseRegistry]
  · have hasset : input.assetId.getD "" ≠ "" := fun hasset => hgated ⟨hkind, hasset⟩
    rw [classification_of_payloadAssets hw hinput hasset]
    rcases pause_or_unpause hkind with hkind | hkind
    · rw [hkind]
      decide
    · rw [hkind]
      decide
  · apply requiresDualSignature_iff.mpr
    apply quantumMandated_of_mem
    cases hk : input.kind <;> simp_all [governanceKindToOperation, quantumMandatedOperations]

theorem exists_payload (hoperation : governanceKindToOperation x.kind =
      governanceKindToOperation y.kind) (hresource : gateResourceId x.gate = gateResourceId y.gate)
    (hx : ¬ Ungated x) (hy : ¬ Ungated y) : ¬ PayloadFixesAction x y := by
  intro hfixes
  obtain ⟨publicKey, signature, hne, hverify⟩ := exists_hardenedSignature
  have haccepted : ∀ input, input = x ∨ input = y → ¬ Ungated input →
      AcceptedFor sampleEnvironment (payloadWorld (payloadAssets x y) publicKey)
        (verifiedPayload (governanceKindToOperation x.kind) (gateResourceId x.gate)) input := by
    intro input hinput hgated
    refine acceptedFor_payload hne (hverify _) ?_ ?_ fun events => dual_of_gated rfl hinput hgated
    · rcases hinput with rfl | rfl
      · rfl
      · exact hoperation
    · rcases hinput with rfl | rfl
      · rfl
      · exact hresource
  exact hfixes _ _ _ _ rfl (haccepted x (.inl rfl) hx) (haccepted y (.inr rfl) hy) rfl

def grantAuditor : ProposeInput where
  kind := .grantRole
  assetId := none
  accountDid := some "did:sampraan:first"
  role := some "AUDITOR_ROLE"
  reason := "annual audit"
  assuranceGrantId := none

def grantAdmin : ProposeInput where
  kind := .grantRole
  assetId := none
  accountDid := some "did:sampraan:second"
  role := some "DEFAULT_ADMIN_ROLE"
  reason := "annual audit"
  assuranceGrantId := none

end

end Sampraan.Governance
