import Sampraan.Governance.Gate

/-! How strong the challenge behind an accepted grant is. -/

namespace Sampraan.Governance

open Backend Library CryptoAssurance Relation

variable {env : Environment} {C : GovernanceConfig → Move GovernanceCall World → Prop} {w₀ : World}
  {c : GovernanceConfig}

/-! ### The lookup before a claiming update -/

theorem prefix_of_append_eq {α : Type} {l r a b : List α} {e : α} (h : l ++ r = a ++ b)
    (he : e ∈ l) (ha : e ∉ a) : a <+: l := by
  rcases List.append_eq_append_iff.mp h with ⟨l', rfl, -⟩ | ⟨l', rfl, -⟩
  · exact absurd (List.mem_append_left _ he) ha
  · exact List.prefix_append _ _

theorem ProposeTrace.claims {input : ProposeInput} {h : List (World × World)} {s t : World}
    {id : String} (htrace : ProposeTrace env input h) (hmem : (s, t) ∈ h) (hs : ChallengesOk s)
    (hexec : Executes id s t) : ∃ actor h₁ before t₁ after row classification rest,
      hasRole actor "ADMIN" = true ∧ h = (h₁ ++ before ++ [(t₁, t₁)]) ++ rest ∧
        (s, t) ∉ h₁ ++ before ++ [(t₁, t₁)] ∧
          Claims env actor input.gate (before ++ (t₁, t₁) :: (s, t) :: after) before t₁ s after id
            row classification := by
  have hloud := not_elsewhere_of_executes hs hexec
  rcases htrace with hall | ⟨actor, h₁, h₂, h₃, rfl, hread₁, hadmin, hgate, hsubmits⟩
  · exact absurd (hall _ hmem) hloud
  have hnot₃ : (s, t) ∉ h₃ := by
    rcases hsubmits with hall | ⟨before, s', t', after, action, rfl, hbefore, hafter, hsub, -⟩
    · exact fun h => hloud (hall _ h)
    · intro h
      rcases List.mem_append.mp h with h | h
      · exact hloud (hbefore _ h)
      · rcases List.mem_cons.mp h with h | h
        · cases h
          exact hsub.not_executes id hexec
        · exact hloud (hafter _ h)
  have hmem₂ : (s, t) ∈ h₂ := by
    simp only [List.mem_append] at hmem
    rcases hmem with (h | h) | h
    · exact absurd (hread₁ _ h) hloud
    · exact h
    · exact absurd h hnot₃
  rcases hgate with ⟨hall, -⟩ | ⟨before, t₁, t₂, after, id', row, classification, hclaims⟩
  · exact absurd (hall _ hmem₂) hloud
  have hfirst : (s, t) ∉ h₁ ++ before ++ [(t₁, t₁)] := by
    simp only [List.mem_append, List.mem_singleton, not_or]
    refine ⟨⟨fun h => hloud (hread₁ _ h), fun h => hloud (hclaims.quiet_before _ h)⟩, fun h => ?_⟩
    cases h
    exact hloud (.refl _)
  have hupdate : (s, t) = (t₂, executeChallengeIn id' t₂) := by
    rw [hclaims.statements] at hmem₂
    rcases List.mem_append.mp hmem₂ with h | h
    · exact absurd (hclaims.quiet_before _ h) hloud
    rcases List.mem_cons.mp h with h | h
    · exact absurd (List.mem_append_right _ (h ▸ List.mem_singleton_self _)) hfirst
    rcases List.mem_cons.mp h with h | h
    · exact h
    · exact absurd (hclaims.quiet_after _ h) hloud
  cases hupdate
  obtain rfl := hexec.id_eq hs
  refine ⟨actor, h₁, before, t₁, after, row, classification,
    (s, executeChallengeIn id s) :: after ++ h₃, hadmin, ?_, hfirst, ?_⟩
  · rw [hclaims.statements]
    simp
  · exact hclaims.statements ▸ hclaims

theorem claims_of_executes (h₀ : ChallengesOk w₀) (hc : (governanceSystem env).Reach C w₀ c) {i : ℕ}
    {user : Option ℕ} {input : ProposeInput} {p : Promise GovernanceReply} {s t : World}
    {id : String} (hi : c.threads i = some ⟨.propose user input, p⟩) (he : (i, s, t) ∈ c.log)
    (hexec : Executes id s t) : ∃ actor t₁ row classification, input.assuranceGrantId = some id ∧
      hasRole actor "ADMIN" = true ∧ (t₁, t₁) ∈ c.history i ∧ row ∈ t₁.assuranceChallenges ∧
        validGrant (gateClaim actor input.gate) id (t₁.now - assuranceGrantValidityMs) row = true ∧
          ReadClassification env input.gate (c.history i) classification ∧
            (gateDecision actor input.kind classification).requiresDualSignature = true := by
  have hmem : (s, t) ∈ c.history i := Config.mem_history.mpr he
  have hok := ((governance_discipline env).log h₀ hc _ he).1
  obtain ⟨rest, htrace, -⟩ := propose_run h₀ hc hi
  obtain ⟨actor, h₁, before, t₁, after, row, classification, rest', hadmin, hh, hfirst, hclaims⟩ :=
    htrace.claims (List.mem_append_left _ hmem) hok hexec
  have hprefix := (prefix_of_append_eq hh hmem hfirst).subset
  exact ⟨actor, t₁, row, classification, hclaims.grant, hadmin, hprefix (by simp),
    hclaims.looked.1, hclaims.looked.2, hclaims.read.mono fun e he => hprefix (by simp [he]),
    hclaims.dual⟩

/-! ### The challenge behind a row -/

/-- The row is, but for its marks, the one that the challenge request stores for this actor. -/
def StoredFor (env : Environment) (row : AssuranceChallengeRow) (input : ChallengeInput)
    (actor : Actor) : Prop :=
  ∃ ecdsaKey pqcKey issuedAt expiresAt, AssuranceChallengeRow.core row =
    challengeRow env (input.issue actor) ecdsaKey pqcKey issuedAt expiresAt

def GovernanceCall.Inserts (env : Environment) (call : GovernanceCall) (s t : World) : Prop :=
  ∀ row, insertChallenge row s = some t → ∃ user input actor,
    call = .challenge user input ∧ StoredFor env row input actor

theorem governance_inserts (call : GovernanceCall) :
    ((governanceSystem env).body call).Obeys ChallengesOk (call.Inserts env) := by
  have helse : ∀ s t, Elsewhere s t → call.Inserts env s t := fun s t h row hins =>
    absurd hins (not_insert_of_elsewhere h)
  have hupdate : ∀ {p f} (s : World), call.Inserts env s (updateChallenges p f s) :=
    fun s row hins => absurd hins not_insert_of_update
  have hsubmit : ∀ (action : GovernanceAction) (s : World), ChallengesOk s → call.Inserts env s
      { s with submittedActions := s.submittedActions ++ [action] } := by
    intro action s _ row hins
    have hlength := congrArg List.length (rows_of_insert hins)
    simp at hlength
  cases call with
  | challenge user input =>
    refine (challenge_obeys env helse user input ?_).bind fun _ => Async.obeys_pure _
    intro actor ecdsaKey pqcKey issuedAt expiresAt s t _ hins row hins'
    refine ⟨user, input, actor, rfl, ecdsaKey, pqcKey, issuedAt, expiresAt, ?_⟩
    have hrows := (rows_of_insert hins').symm.trans (rows_of_insert hins)
    rw [List.singleton_injective (List.append_cancel_left hrows)]
    rfl
  | verify user input =>
    exact (verify_obeys env helse user input (fun _ _ s _ => hupdate s)
      fun _ _ _ s _ => hupdate s).bind fun _ => Async.obeys_pure _
  | propose user input =>
    exact (propose_obeys env helse hsubmit user input fun _ s _ => hupdate s).bind
      fun _ => Async.obeys_pure _
  | requestDeactivation user input =>
    exact (requestDeactivation_obeys env helse hsubmit user input).bind fun _ => Async.obeys_pure _

theorem exists_challenge (h₀ : w₀.assuranceChallenges = [])
    (hc : (governanceSystem env).Reach C w₀ c) {row : AssuranceChallengeRow}
    (hrow : row ∈ c.shared.assuranceChallenges) : ∃ k user input p actor,
      c.threads k = some ⟨.challenge user input, p⟩ ∧ StoredFor env row input actor := by
  have hD := governance_discipline env
  have hok := challengesOk_of_nil h₀
  obtain ⟨⟨k, s, t⟩, he, row₀, hins, hcore⟩ := exists_insert hD h₀ (fun _ _ h => h) hc hrow
  obtain ⟨⟨call, p⟩, hth, hinserts⟩ := (hD.log_behaves hok hc fun call s _ =>
    (governance_inserts call).behaves (fun _ _ h => h.2) s).2 _ he
  obtain ⟨user, input, actor, rfl, hstored⟩ := hinserts row₀ hins
  refine ⟨k, user, input, p, actor, hth, ?_⟩
  rwa [StoredFor, ← hcore]

/-! ### Its level -/

/-- What the challenge request weighs, beside the operation and the missing step-up. -/
def declaredWeight (input : ChallengeInput) (actor : Actor) : ℕ :=
  (classificationWeight (input.assetClassification.map AssetClassification.label)).1 +
    (riskWeight
      { toPolicyContext := input.policyInput
        operation := input.operation
        role := actor.roles.headD "USER" }).1 +
    (roleWeight (toUpperCase (actor.roles.headD "USER"))).1 +
    (custodyWeight (input.custodyRelation.getD .notApplicable)).1 +
    (approvalWeight (input.approvalStatus.getD .notRequired)).1

/-- Pausing and unpausing are hardened only by what the challenge request declares. -/
def DeclaredHardened (kind : GovernanceKind) (input : ChallengeInput) (actor : Actor) : Prop :=
  kind ∉ [.pauseRegistry, .unpauseRegistry] ∨ input.riskLevel = some .critical ∨
    25 ≤ declaredWeight input actor

theorem assuranceScore_issue (input : ChallengeInput) (actor : Actor)
    (h : input.operation = .pauseRegistry ∨ input.operation = .unpauseRegistry) :
    assuranceScore
      { toPolicyContext := input.policyInput
        operation := input.operation
        role := actor.roles.headD "USER" } = 45 + declaredWeight input actor := by
  have hoperation : operationWeight input.operation = 30 := by
    rcases h with h | h <;> rw [h] <;> rfl
  simp only [assuranceScore, declaredWeight, stepUpWeight, weighIf, hoperation,
    ChallengeInput.policyInput]
  simp
  omega

theorem mlDsa65_mem_iff {row : AssuranceChallengeRow} {input : ChallengeInput} {actor : Actor}
    {kind : GovernanceKind} (hstored : StoredFor env row input actor)
    (hoperation : row.operation = governanceKindToOperation kind) :
    .mlDsa65 ∈ row.requiredAlgorithms ↔ DeclaredHardened kind input actor := by
  obtain ⟨ecdsaKey, pqcKey, issuedAt, expiresAt, hcore⟩ := hstored
  have halgorithms : row.requiredAlgorithms =
      algorithmByLevel (input.issue actor).decision.level :=
    (congrArg AssuranceChallengeRow.requiredAlgorithms hcore :)
  have hop : row.operation = input.operation := (congrArg AssuranceChallengeRow.operation hcore :)
  have hlevel : (input.issue actor).decision.level = assuranceLevel
      { toPolicyContext := input.policyInput
        operation := input.operation
        role := actor.roles.headD "USER" } := rfl
  rw [halgorithms, mlDsa65_mem_algorithmByLevel, hlevel, assuranceLevel_eq_quantumHardened,
    DeclaredHardened]
  rw [hop] at hoperation
  by_cases hkind : kind ∈ [.pauseRegistry, .unpauseRegistry]
  · have hpause : input.operation = .pauseRegistry ∨ input.operation = .unpauseRegistry := by
      simp only [List.mem_cons, List.not_mem_nil, or_false] at hkind
      rcases hkind with rfl | rfl
      · exact .inl hoperation
      · exact .inr hoperation
    have hmandated : input.operation ∉ quantumMandatedOperations := by
      rcases hpause with h | h <;> rw [h] <;> decide
    have hirreversible : input.operation ∉ irreversibleOperations := by
      rcases hpause with h | h <;> rw [h] <;> decide
    have hthreshold : quantumThreshold ≤ 45 + declaredWeight input actor ↔
        25 ≤ declaredWeight input actor := by
      rw [quantumThreshold]
      omega
    simp only [quantumMandated, assuranceScore_issue input actor hpause, hmandated, hirreversible,
      hkind, hthreshold, false_and, or_false, false_or, not_true_eq_false]
    exact or_comm
  · have hmandated : input.operation ∈ quantumMandatedOperations := by
      rw [hoperation]
      cases kind <;> first | decide | exact absurd (by decide) hkind
    exact iff_of_true (quantumMandated_of_mem hmandated) (.inl hkind)

/-! ### No downgrade, exactly when the request declares enough -/

/-- The propose request `i` took `row` under a decision for a dual signature, and a challenge
request had asked for that row with `asked`, for an actor with these roles. -/
structure Accepted (env : Environment) (c : GovernanceConfig) (i : ℕ) (input : ProposeInput)
    (row : AssuranceChallengeRow) (asked : ChallengeInput) (actor : Actor) : Prop where
  operation : row.operation = governanceKindToOperation input.kind
  dual : ∃ admin classification, hasRole admin "ADMIN" = true ∧
    ReadClassification env input.gate (c.history i) classification ∧
      (gateDecision admin input.kind classification).requiresDualSignature = true
  request : ∃ k user p, c.threads k = some ⟨.challenge user asked, p⟩
  stored : StoredFor env row asked actor

theorem bound_of_executes (h₀ : w₀.assuranceChallenges = [])
    (hc : (governanceSystem env).Reach C w₀ c) {i : ℕ} {user : Option ℕ} {input : ProposeInput}
    {p : Promise GovernanceReply} {s t : World} {row : AssuranceChallengeRow}
    (hi : c.threads i = some ⟨.propose user input, p⟩) (he : (i, s, t) ∈ c.log)
    (hexec : Executes row.id s t) (hrow : row ∈ s.assuranceChallenges) :
    ∃ admin classification, hasRole admin "ADMIN" = true ∧
      row.operation = governanceKindToOperation input.kind ∧
        row.resourceId = gateResourceId input.gate ∧
          ReadClassification env input.gate (c.history i) classification ∧
            (gateDecision admin input.kind classification).requiresDualSignature = true := by
  have hok := challengesOk_of_nil h₀
  obtain ⟨admin, t₁, looked, classification, -, hadmin, hlookup, hlooked, hvalid, hread, hdual⟩ :=
    claims_of_executes hok hc hi he hexec
  obtain ⟨hid, -, hop, -, hresource, -⟩ := validGrant_eq_true.mp hvalid
  have hcore := core_eq_of_log (governance_discipline env) hok hc he (Config.mem_history.mp hlookup)
    hrow hlooked hid.symm
  exact ⟨admin, classification, hadmin,
    (congrArg AssuranceChallengeRow.operation hcore :).trans hop,
    (congrArg AssuranceChallengeRow.resourceId hcore :).trans hresource, hread, hdual⟩

theorem exists_accepted (h₀ : w₀.assuranceChallenges = [])
    (hc : (governanceSystem env).Reach C w₀ c) {i : ℕ} {user : Option ℕ} {input : ProposeInput}
    {p : Promise GovernanceReply} {s t : World} {row : AssuranceChallengeRow}
    (hi : c.threads i = some ⟨.propose user input, p⟩) (he : (i, s, t) ∈ c.log)
    (hexec : Executes row.id s t) (hrow : row ∈ s.assuranceChallenges) :
    ∃ asked actor, Accepted env c i input row asked actor := by
  obtain ⟨admin, classification, hadmin, hop, -, hread, hdual⟩ :=
    bound_of_executes h₀ hc hi he hexec hrow
  obtain ⟨c₁, _, _, _, hc₁, -, -, rfl, -, hcont, -⟩ := hc.log_source _ he
  obtain ⟨k, user', asked, q, actor, hk, hstored⟩ := exists_challenge h₀ hc₁ hrow
  obtain ⟨q', hk', -⟩ := hcont.threads _ _ hk
  exact ⟨asked, actor, hop, ⟨admin, classification, hadmin, hread, hdual⟩, ⟨k, user', q', hk'⟩,
    hstored⟩

def NoDowngrade (c : GovernanceConfig) : Prop :=
  ∀ i user input p s t row, c.threads i = some ⟨.propose user input, p⟩ → (i, s, t) ∈ c.log →
    Executes row.id s t → row ∈ s.assuranceChallenges →
      .ecdsaSecp256k1 ∈ row.requiredAlgorithms ∧ .mlDsa65 ∈ row.requiredAlgorithms

/-- The challenge behind an accepted grant requires both signatures exactly when the request for it
declared a hardened operation. -/
theorem governance_downgrade_iff (h₀ : w₀.assuranceChallenges = [])
    (hc : (governanceSystem env).Reachable w₀ c) {i : ℕ} {user : Option ℕ} {input : ProposeInput}
    {p : Promise GovernanceReply} {s t : World} {row : AssuranceChallengeRow}
    (hi : c.threads i = some ⟨.propose user input, p⟩) (he : (i, s, t) ∈ c.log)
    (hexec : Executes row.id s t) (hrow : row ∈ s.assuranceChallenges) :
    ∃ asked actor, Accepted env c i input row asked actor ∧
      (.ecdsaSecp256k1 ∈ row.requiredAlgorithms ∧ .mlDsa65 ∈ row.requiredAlgorithms ↔
        DeclaredHardened input.kind asked actor) := by
  obtain ⟨asked, actor, haccepted⟩ := exists_accepted h₀ hc hi he hexec hrow
  refine ⟨asked, actor, haccepted, ?_⟩
  have halgorithms := ((governance_discipline env).log (challengesOk_of_nil h₀) hc _ he).1.algorithms
    row hrow
  rw [← mlDsa65_mem_iff haccepted.stored haccepted.operation, halgorithms]
  exact and_iff_right (ecdsa_mem_algorithmByLevel _)

/-! ### A paused registry -/

def pauseChallenge : ChallengeInput where
  operation := .pauseRegistry
  resourceType := "GOVERNANCE"
  resourceId := "asset"
  assetClassification := none
  riskLevel := none
  riskScore := none
  custodyRelation := none
  approvalStatus := none
  challengeId := "challenge"
  nonce := "nonce"

def pauseProposal : ProposeInput where
  kind := .pauseRegistry
  assetId := some "asset"
  accountDid := none
  role := none
  reason := "incident"
  assuranceGrantId := some "challenge"

def criticalWorld : World :=
  { sampleWorld with
    assets := [{ id := "row", assetId := "asset", classification := .critical }] }

def pauseSchedule : List (Move GovernanceCall World) :=
  .start 0 (.challenge (some 1) pauseChallenge) :: List.replicate 9 (.run 0) ++
    .start 1 (.verify (some 1)
      { nonce := "nonce", ecdsaSignature := "signed by the holder", pqcSignature := none }) ::
      List.replicate 9 (.run 1) ++
    .start 2 (.propose (some 1) pauseProposal) :: List.replicate 10 (.run 2)

def pauseRun : Option GovernanceConfig :=
  (governanceSystem sampleEnvironment).exec (fun _ _ => True) (Config.initial criticalWorld)
    pauseSchedule

theorem pauseRun_reachable (hrun : pauseRun.isSome) :
    (governanceSystem sampleEnvironment).Reachable criticalWorld (pauseRun.get hrun) := by
  refine System.exec_reach (fun m hm => ?_) (Option.some_get hrun).symm
  cases m with
  | interfere f => simp [pauseSchedule] at hm
  | _ => trivial

theorem exists_pauseClaim (hrun : pauseRun.isSome) : ∃ s t row,
    (2, s, t) ∈ (pauseRun.get hrun).log ∧ Executes row.id s t ∧ row ∈ s.assuranceChallenges ∧
      row.requiredAlgorithms = [.ecdsaSecp256k1] := by
  have hentry : ((pauseRun.get hrun).log[22]?).isSome := by rfl
  obtain ⟨⟨i, s, t⟩, hmem, hi, hupdate, hrows⟩ : ∃ e ∈ (pauseRun.get hrun).log,
      e.1 = 2 ∧ e.2.2 = executeChallengeIn "challenge" e.2.1 ∧
        e.2.1.assuranceChallenges.map (fun r => (r.id, r.executedAt, r.requiredAlgorithms)) =
          [("challenge", none, [.ecdsaSecp256k1])] :=
    ⟨((pauseRun.get hrun).log[22]?).get hentry,
      List.mem_of_getElem? (Option.some_get hentry).symm, by rfl, by rfl, by rfl⟩
  obtain rfl : i = 2 := hi
  have hcolumns : ("challenge", none, [.ecdsaSecp256k1]) ∈
      s.assuranceChallenges.map fun r => (r.id, r.executedAt, r.requiredAlgorithms) := by
    rw [show s.assuranceChallenges.map _ = _ from hrows]
    exact List.mem_singleton_self _
  obtain ⟨row, hrow, hcolumns⟩ := List.mem_map.mp hcolumns
  simp only [Prod.mk.injEq] at hcolumns
  obtain ⟨hid, hunexecuted, halgorithms⟩ := hcolumns
  refine ⟨s, t, row, hmem, ⟨hid ▸ hupdate, row, hrow, ?_⟩, hrow, halgorithms⟩
  simp [claimable, hunexecuted]

theorem governance_downgrade_iff_sample : ∃ (c : GovernanceConfig) (row : AssuranceChallengeRow)
    (asked : ChallengeInput) (actor : Actor),
      Accepted sampleEnvironment c 2 pauseProposal row asked actor ∧
        (.ecdsaSecp256k1 ∈ row.requiredAlgorithms ∧ .mlDsa65 ∈ row.requiredAlgorithms ↔
          DeclaredHardened .pauseRegistry asked actor) := by
  have hrun : pauseRun.isSome := by rfl
  obtain ⟨s, t, row, he, hexec, hrow, -⟩ := exists_pauseClaim hrun
  obtain ⟨asked, actor, haccepted, hiff⟩ := governance_downgrade_iff rfl (pauseRun_reachable hrun) rfl he hexec hrow
  exact ⟨_, row, asked, actor, haccepted, hiff⟩

/-- The gate asks for both signatures to pause a critical asset's registry, and accepts a grant
whose challenge required one. -/
theorem not_noDowngrade : ∃ c, (governanceSystem sampleEnvironment).Reachable criticalWorld c ∧
    (∃ result, c.Returned 2 (.propose (some 1) pauseProposal) (.proposed result)) ∧
      ¬ NoDowngrade c := by
  have hrun : pauseRun.isSome := by rfl
  obtain ⟨s, t, row, he, hexec, hrow, halgorithms⟩ := exists_pauseClaim hrun
  refine ⟨pauseRun.get hrun, pauseRun_reachable hrun, ⟨_, rfl⟩, fun hsound => ?_⟩
  have hboth := hsound 2 (some 1) pauseProposal _ s t row rfl he hexec hrow
  rw [halgorithms] at hboth
  exact absurd hboth.2 (by decide)

end Sampraan.Governance
