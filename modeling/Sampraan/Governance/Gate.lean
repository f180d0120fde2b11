import Sampraan.CryptoAssurance.Grants
import Sampraan.Governance.Router

/-!
Challenge, verify, propose and requestDeactivation requests of any number of
clients, interleaved statement by statement with anything that leaves the
challenges and the submitted proposals alone.
-/

namespace Sampraan.Governance

open Backend Library CryptoAssurance Relation

variable (env : Environment) {I : World → Prop} {T : World → World → Prop}

/-! ### What the statements of each procedure do -/

section

variable (helse : ∀ s t, Elsewhere s t → T s t)

include helse

theorem audit_obeys (actor action resourceType resourceId : String) (decision : AuditDecision)
    (reason : String) :
    (audit env actor action resourceType resourceId decision reason).Obeys I T :=
  createAuditEvent_obeys env helse _

theorem getIdentityByLinkedUserId_obeys (id : ℕ) :
    (getIdentityByLinkedUserId env id).Obeys I T :=
  .ite (Async.obeys_pure _) (obeys_read helse _)

theorem getIdentityRoles_obeys (id : String) : (getIdentityRoles env id).Obeys I T :=
  .ite (Async.obeys_pure _) (obeys_read helse _)

theorem sessionActor_obeys (user : Option ℕ) :
    (CryptoAssurance.requireActor env user).Obeys I T := by
  cases user with
  | none => exact Async.obeys_throw _
  | some id =>
    refine (getIdentityByLinkedUserId_obeys env helse id).bind fun identity => ?_
    cases identity with
    | none => exact Async.obeys_throw _
    | some identity =>
      exact (getIdentityRoles_obeys env helse _).bind fun _ => Async.obeys_pure _

theorem requireActor_obeys (user : Option ℕ) : (requireActor env user).Obeys I T := by
  cases user with
  | none => exact Async.obeys_throw _
  | some id =>
    refine (getIdentityByLinkedUserId_obeys env helse id).bind fun identity => ?_
    cases identity with
    | none => exact Async.obeys_throw _
    | some identity =>
      exact .ite (Async.obeys_throw _)
        ((getIdentityRoles_obeys env helse _).bind fun _ => Async.obeys_pure _)

omit helse in
theorem assertAdmin_obeys (actor : Actor) (what : String) :
    (assertAdmin actor what).Obeys I T :=
  .ite (Async.obeys_pure _) (Async.obeys_throw _)

theorem requireIdentityByDid_obeys (did : String) : (requireIdentityByDid env did).Obeys I T := by
  refine .ite (Async.obeys_throw _) ((obeys_read helse _).bind fun identity => ?_)
  cases identity with
  | none => exact Async.obeys_throw _
  | some identity => exact (getIdentityRoles_obeys env helse _).bind fun _ => Async.obeys_pure _

theorem gateClassification_obeys (input : GovernanceAssuranceInput) :
    (gateClassification env input).Obeys I T :=
  .ite (Async.Obeys.bind (.ite (Async.obeys_pure _) (obeys_read helse _)) fun _ =>
    Async.obeys_pure _) (.ite (Async.obeys_pure _) (Async.obeys_pure _))

theorem requireGovernanceAssurance_obeys (actor : Actor) (input : GovernanceAssuranceInput)
    (hexecute : ∀ id s, I s → T s (executeChallengeIn id s)) :
    (requireGovernanceAssurance env actor input).Obeys I T := by
  refine (gateClassification_obeys env helse input).bind fun classification => ?_
  refine .ite (Async.obeys_pure _) ((claimAssuranceGrant_obeys env helse _ hexecute).bind
    fun claim => ?_)
  cases claim with
  | failed reason => exact (audit_obeys env helse ..).bind fun _ => Async.obeys_throw _
  | ok level => exact audit_obeys env helse ..

omit helse in
theorem sendProposal_obeys (besu : BesuConfig) (input : GovernanceAction) :
    (sendProposal env besu input).Obeys I T := by
  unfold sendProposal
  cases besu.initializationError with
  | some message => exact Async.obeys_throw _
  | none =>
    have haddress : ∀ value what, (requireAddress value what).Obeys I T := fun _ _ =>
      .ite (Async.obeys_throw _) (Async.obeys_pure _)
    refine Async.Obeys.bind (.ite (Async.obeys_throw _) (Async.obeys_pure _)) fun _ => ?_
    refine (haddress _ _).bind fun _ => (haddress _ _).bind fun _ => (haddress _ _).bind fun _ => ?_
    refine .ite (Async.obeys_throw _) (.ite (Async.obeys_throw _) ?_)
    refine Async.Obeys.bind (.ite (Async.obeys_pure _)
      (.ite (Async.obeys_throw _) (Async.obeys_pure _))) fun tokenId => ?_
    dsimp only
    split
    · exact Async.obeys_throw _
    · exact Async.obeys_pure _

omit helse in
theorem proposeGovernanceAction_obeys (besu : BesuConfig) (input : GovernanceAction)
    (hsubmit : ∀ s, I s → T s { s with submittedActions := s.submittedActions ++ [input] }) :
    (proposeGovernanceAction env besu input).Obeys I T :=
  (Async.obeys_statement hsubmit).bind fun _ => sendProposal_obeys env besu input

theorem resolveOnChainWallet_obeys (besu : BesuConfig) (did displayName : String) :
    (resolveOnChainWallet env besu did displayName).Obeys I T :=
  .ite (Async.obeys_throw _) ((createAuditEvent_obeys env helse _).bind fun _ =>
    Async.obeys_pure _)

theorem proposeAccount_obeys (besu : BesuConfig) (accountDid : Option String) :
    (proposeAccount env besu accountDid).Obeys I T := by
  refine .ite (Async.obeys_pure _) ((requireIdentityByDid_obeys env helse _).bind fun target => ?_)
  cases besu.privateKey with
  | none => exact Async.obeys_throw _
  | some operatorKey => exact Async.obeys_pure _

variable (hsubmit : ∀ action s, I s →
  T s { s with submittedActions := s.submittedActions ++ [action] })

include hsubmit

theorem propose_obeys (user : Option ℕ) (input : ProposeInput)
    (hexecute : ∀ id s, I s → T s (executeChallengeIn id s)) :
    (propose env user input).Obeys I T := by
  refine (requireActor_obeys env helse user).bind fun actor => ?_
  refine (assertAdmin_obeys actor _).bind fun _ => ?_
  refine (requireGovernanceAssurance_obeys env helse actor input.gate hexecute).bind fun _ => ?_
  cases env.besu with
  | none => exact Async.obeys_throw _
  | some besu =>
    refine (proposeAccount_obeys env helse besu _).bind fun account => ?_
    refine (proposeGovernanceAction_obeys env besu _ (hsubmit _)).bind fun result => ?_
    exact (audit_obeys env helse ..).bind fun _ => Async.obeys_pure _

theorem requestDeactivation_obeys (user : Option ℕ) (input : DeactivationInput) :
    (requestDeactivation env user input).Obeys I T := by
  refine (requireActor_obeys env helse user).bind fun actor => ?_
  refine (assertAdmin_obeys actor _).bind fun _ => ?_
  refine (requireIdentityByDid_obeys env helse _).bind fun target => ?_
  refine .ite (Async.obeys_throw _) ?_
  cases env.besu with
  | none => exact Async.obeys_throw _
  | some besu =>
    refine (resolveOnChainWallet_obeys env helse besu _ _).bind fun wallet => ?_
    refine Async.Obeys.bind (Async.Obeys.bind (proposeGovernanceAction_obeys env besu _ (hsubmit _))
      fun _ => Async.obeys_pure _) fun proposalId => ?_
    exact (audit_obeys env helse ..).bind fun _ => Async.obeys_pure _

omit hsubmit

theorem challenge_obeys (user : Option ℕ) (input : ChallengeInput)
    (hissue : ∀ actor ecdsaKey pqcKey issuedAt expiresAt s t, I s →
      insertChallenge (challengeRow env (input.issue actor) ecdsaKey pqcKey issuedAt expiresAt) s =
        some t → T s t) :
    (challenge env user input).Obeys I T := by
  refine (sessionActor_obeys env helse user).bind fun actor => ?_
  refine (issueAssuranceChallenge_obeys env helse _ (hissue actor)).bind fun result => ?_
  cases result with
  | failed code reason => exact Async.obeys_throw _
  | notRequired decision => exact Async.obeys_pure _
  | issued decision challenge => exact Async.obeys_pure _

theorem verify_obeys (user : Option ℕ) (input : VerifyInput)
    (hconsume : ∀ identityId nonce s, I s → T s (consumeChallengeIn identityId nonce s))
    (hmark : ∀ id e p s, I s → T s (markChallengeIn id e p s)) :
    (verify env user input).Obeys I T := by
  refine (sessionActor_obeys env helse user).bind fun actor => ?_
  refine .ite (Async.obeys_throw _) ?_
  refine (verifyAssuranceChallenge_obeys env helse _ (hconsume _ _) hmark).bind fun result => ?_
  cases result with
  | failed code reason => exact Async.obeys_throw _
  | ok => exact Async.obeys_pure _

end

/-! ### The system -/

inductive GovernanceCall where
  | challenge (user : Option ℕ) (input : ChallengeInput)
  | verify (user : Option ℕ) (input : VerifyInput)
  | propose (user : Option ℕ) (input : ProposeInput)
  | requestDeactivation (user : Option ℕ) (input : DeactivationInput)

inductive GovernanceReply where
  | issued (result : IssueAssuranceResult)
  | verified (result : VerifyAssuranceResult)
  | proposed (proposal : MinedProposal)
  | deactivationProposed (proposalId : ℕ)

def governanceBody : GovernanceCall → Promise GovernanceReply
  | .challenge user input => do return .issued (← challenge env user input)
  | .verify user input => do return .verified (← verify env user input)
  | .propose user input => do return .proposed (← propose env user input)
  | .requestDeactivation user input => do
    return .deactivationProposed (← requestDeactivation env user input)

def governanceSystem : System GovernanceCall World Error GovernanceReply where
  body := governanceBody env
  interfere := Elsewhere

abbrev GovernanceConfig := Config GovernanceCall World Error GovernanceReply

theorem governance_discipline :
    (governanceSystem env).Discipline ChallengesOk ChallengesStep where
  body call := by
    have helse : ∀ s t, Elsewhere s t → ChallengesStep s t := fun _ _ => .elsewhere
    have hsubmit : ∀ action s, ChallengesOk s →
        ChallengesStep s { s with submittedActions := s.submittedActions ++ [action] } :=
      fun _ _ _ => .submit _
    cases call with
    | challenge user input =>
      exact (challenge_obeys env helse user input fun _ _ _ _ _ _ _ _ =>
        .issue (unused_challengeRow ..)).bind fun _ => Async.obeys_pure _
    | verify user input =>
      exact (verify_obeys env helse user input (fun _ _ _ _ => .consume _ _)
        fun _ _ _ _ _ => .mark _ _ _).bind fun _ => Async.obeys_pure _
    | propose user input =>
      exact (propose_obeys env helse hsubmit user input fun _ _ _ => .execute _).bind
        fun _ => Async.obeys_pure _
    | requestDeactivation user input =>
      exact (requestDeactivation_obeys env helse hsubmit user input).bind
        fun _ => Async.obeys_pure _
  interfere _ _ _ h := .elsewhere h
  keep _ _ hs h := h.ok hs

/-! ### What the gate does -/

def gateClassificationIn (input : GovernanceAssuranceInput) (w : World) : Option String :=
  if input.assetId.getD "" ≠ "" then
    if !env.databaseConfigured then none
    else (w.assets.find? (·.assetId == input.assetId.getD "")).map fun asset =>
      asset.classification.label
  else if input.kind ∈ governanceKindsWithAssetTarget then some "CRITICAL"
  else none

section

variable {env} {W : World → World → Prop} {s : World} {h : List (World × World)} {actor : Actor}
  {input : GovernanceAssuranceInput}

theorem gateClassification_settles {o : Except Error (Option String)}
    (hc : (gateClassification env input).Settles W s h o) :
    (∃ t, W s t ∧ h = [(t, t)] ∧ o = .ok (gateClassificationIn env input t)) ∨
      h = [] ∧ ∀ t, o = .ok (gateClassificationIn env input t) := by
  unfold gateClassification at hc
  unfold gateClassificationIn
  split at hc
  case isTrue hasset =>
    simp only [if_pos hasset]
    rw [getAssetByAssetId] at hc
    split at hc
    case isTrue hconf =>
      rw [Async.pure_eq, Async.fulfilled_bind] at hc
      obtain ⟨rfl, rfl⟩ := Async.settles_pure.mp hc
      exact .inr ⟨rfl, fun t => by rw [if_pos hconf, Option.map_none]⟩
    case isFalse hconf =>
      rw [Async.settles_query_bind] at hc
      obtain ⟨t, h', ht, rfl, hc⟩ := hc
      obtain ⟨rfl, rfl⟩ := Async.settles_pure.mp hc
      exact .inl ⟨t, ht, rfl, by rw [if_neg hconf]⟩
  case isFalse hasset =>
    simp only [if_neg hasset]
    split at hc
    case isTrue hkind =>
      obtain ⟨rfl, rfl⟩ := Async.settles_pure.mp hc
      exact .inr ⟨rfl, fun _ => by rw [if_pos hkind]⟩
    case isFalse hkind =>
      obtain ⟨rfl, rfl⟩ := Async.settles_pure.mp hc
      exact .inr ⟨rfl, fun _ => by rw [if_neg hkind]⟩

def ReadClassification (env : Environment) (input : GovernanceAssuranceInput)
    (h : List (World × World)) (classification : Option String) : Prop :=
  (∃ t, (t, t) ∈ h ∧ classification = gateClassificationIn env input t) ∨
    ∀ t, classification = gateClassificationIn env input t

theorem ReadClassification.mono {h' : List (World × World)} {classification : Option String}
    (hsub : ∀ e ∈ h, e ∈ h') (hr : ReadClassification env input h classification) :
    ReadClassification env input h' classification := by
  rcases hr with ⟨t, ht, hr⟩ | hr
  · exact .inl ⟨t, hsub _ ht, hr⟩
  · exact .inr hr

/-- The statements of a gate that claims the grant `id`: under a decision for a dual signature it
looks the row up and takes it. -/
structure Claims (env : Environment) (actor : Actor) (input : GovernanceAssuranceInput)
    (h before : List (World × World)) (t₁ t₂ : World) (after : List (World × World)) (id : String)
    (row : AssuranceChallengeRow) (classification : Option String) : Prop where
  grant : input.assuranceGrantId = some id
  statements : h = before ++ (t₁, t₁) :: (t₂, executeChallengeIn id t₂) :: after
  quiet_before : ∀ e ∈ before, Elsewhere e.1 e.2
  quiet_after : ∀ e ∈ after, Elsewhere e.1 e.2
  looked : row ∈ t₁.assuranceChallenges ∧
    validGrant (gateClaim actor input) id (t₁.now - assuranceGrantValidityMs) row = true
  executes : Executes id t₂ (executeChallengeIn id t₂)
  read : ReadClassification env input before classification
  dual : (gateDecision actor input.kind classification).requiresDualSignature = true

/-- The gate passes without a grant only when the decision needs no dual signature; with one, it
claims it. -/
theorem requireGovernanceAssurance_cases {o : Except Error Unit}
    (hc : (requireGovernanceAssurance env actor input).Settles W s h o) :
    ((∀ e ∈ h, Elsewhere e.1 e.2) ∧ (o = .ok () → ∃ classification,
      ReadClassification env input h classification ∧
        (gateDecision actor input.kind classification).requiresDualSignature = false)) ∨
      o = .ok () ∧ ∃ before t₁ t₂ after id row classification,
        Claims env actor input h before t₁ t₂ after id row classification := by
  have hread : ∀ {o s h}, (gateClassification env input).Settles W s h o →
      (∀ e ∈ h, Elsewhere e.1 e.2) ∧ ∃ classification, o = .ok classification ∧
        ∀ h', ReadClassification env input (h ++ h') classification := by
    intro o s h hc
    rcases gateClassification_settles hc with ⟨t, -, rfl, rfl⟩ | ⟨rfl, hall⟩
    · exact ⟨by simpa using Elsewhere.refl t, _, rfl, fun h' => .inl ⟨t, by simp, rfl⟩⟩
    · refine ⟨by simp, _, hall s, fun h' => .inr fun t => ?_⟩
      exact Except.ok.inj ((hall s).symm.trans (hall t))
  rcases Async.settles_bind.mp hc with ⟨e, rfl, he⟩ | ⟨h₁, h₂, classification, rfl, hc₁, hc₂⟩
  · obtain ⟨-, _, ho, -⟩ := hread he
    cases ho
  obtain ⟨helse₁, classification', ho, hclass⟩ := hread hc₁
  obtain rfl := Except.ok.inj ho
  dsimp only at hc₂
  split at hc₂
  case isTrue hdual =>
    obtain ⟨rfl, rfl⟩ := Async.settles_pure.mp hc₂
    refine .inl ⟨by simpa using helse₁, fun _ => ⟨_, hclass [], ?_⟩⟩
    simpa using hdual
  case isFalse hdual =>
  have hrest : ∀ {p : Promise Unit} {s h o}, p.Obeys (fun _ => True) Elsewhere →
      p.Settles W s h o → ∀ e ∈ h, Elsewhere e.1 e.2 := fun hp hc =>
    hp.history (fun _ _ _ => trivial) hc
  rcases Async.settles_bind.mp hc₂ with ⟨e, rfl, he⟩ | ⟨h₃, h₄, claim, rfl, hc₃, hc₄⟩
  · rcases claimAssuranceGrant_cases he with ⟨-, _, ho⟩ | ⟨_, _, _, _, -, -, -, -, -, -, -, ho⟩
    · cases ho
    · cases ho
  rcases claimAssuranceGrant_cases hc₃ with
    ⟨helse₃, reason, ho⟩ | ⟨id, t₁, t₂, row, hgrant, -, -, rfl, hrow, hvalid, hexec, ho⟩
  · obtain rfl := Except.ok.inj ho
    have helse₄ := hrest
      ((audit_obeys env (fun _ _ h => h) ..).bind fun _ => Async.obeys_throw _) hc₄
    refine .inl ⟨fun e he => ?_, fun hok => ?_⟩
    · simp only [List.mem_append] at he
      rcases he with he | he | he
      · exact helse₁ e he
      · exact helse₃ e he
      · exact helse₄ e he
    · rw [hok] at hc₄
      obtain ⟨_, _, _, -, -, hthrow⟩ := Async.settles_bind_ok.mp hc₄
      cases (Async.settles_rejected.mp hthrow).2
  · obtain rfl := Except.ok.inj ho
    have helse₄ := hrest (audit_obeys env (fun _ _ h => h) ..) hc₄
    obtain ⟨⟨⟩, rfl⟩ := (createAuditEvent_neverRejects _).settles hc₄
    refine .inr ⟨rfl, h₁, t₁, t₂, h₄, id, row, classification, hgrant, by simp, helse₁, helse₄,
      ⟨hrow, hvalid⟩, hexec, by simpa using hclass [], ?_⟩
    simpa using hdual

end

/-! ### What a propose request does -/

def Submits (action : GovernanceAction) (s t : World) : Prop :=
  t = { s with submittedActions := s.submittedActions ++ [action] }

theorem Submits.not_executes {action : GovernanceAction} {s t : World} (h : Submits action s t)
    (id : String) : ¬ Executes id s t := by
  rintro ⟨rfl, -⟩
  have hsubmitted : s.submittedActions = s.submittedActions ++ [action] :=
    congrArg World.submittedActions h
  simp at hsubmitted

theorem not_elsewhere_of_executes {id : String} {s t : World} (hs : ChallengesOk s)
    (h : Executes id s t) : ¬ Elsewhere s t := by
  intro helse
  obtain ⟨hnot, r, hr, hdone⟩ := h.takes hs
  exact hnot ⟨r, helse.challenges ▸ hr, hdone⟩

/-- The gate let the request pass: it needs no grant, or it has claimed one. -/
def GatePassed (env : Environment) (actor : Actor) (input : GovernanceAssuranceInput)
    (h : List (World × World)) : Prop :=
  ((∀ e ∈ h, Elsewhere e.1 e.2) ∧ ∃ classification, ReadClassification env input h classification ∧
    (gateDecision actor input.kind classification).requiresDualSignature = false) ∨
      ∃ before t₁ t₂ after id row classification,
        Claims env actor input h before t₁ t₂ after id row classification

def SubmitsOnce (input : ProposeInput) (h : List (World × World)) : Prop :=
  (∀ e ∈ h, Elsewhere e.1 e.2) ∨ ∃ before s t after action, h = before ++ (s, t) :: after ∧
    (∀ e ∈ before, Elsewhere e.1 e.2) ∧ (∀ e ∈ after, Elsewhere e.1 e.2) ∧ Submits action s t ∧
      action.kind = input.kind ∧ action.assetId = input.assetId

section

variable {env} {W : World → World → Prop} {s : World} {h : List (World × World)}
  {user : Option ℕ} {input : ProposeInput}

theorem elsewhere_of_obeys {α : Type} {p : Promise α} {o : Except Error α}
    (hp : p.Obeys (fun _ => True) Elsewhere) (hc : p.Settles W s h o) :
    ∀ e ∈ h, Elsewhere e.1 e.2 :=
  hp.history (fun _ _ _ => trivial) hc

theorem proposeGovernanceAction_settles {besu : BesuConfig} {action : GovernanceAction}
    {o : Except Error MinedProposal}
    (hc : (proposeGovernanceAction env besu action).Settles W s h o) :
    ∃ t, h = [(t, { t with submittedActions := t.submittedActions ++ [action] })] := by
  rw [proposeGovernanceAction, Async.settles_statement_bind] at hc
  obtain ⟨t, rest, -, rfl, hc⟩ := hc
  obtain rfl : rest = [] := List.eq_nil_iff_forall_not_mem.mpr fun e he =>
    (sendProposal_obeys env besu action).history (I := fun _ => True) (T := fun _ _ => False)
      (fun _ _ _ => trivial) hc e he
  exact ⟨t, rfl⟩

/-- The statements of a propose request: it fails early, or resolves an administrator, passes the
gate and submits. -/
def ProposeTrace (env : Environment) (input : ProposeInput) (h : List (World × World)) : Prop :=
  (∀ e ∈ h, Elsewhere e.1 e.2) ∨ ∃ actor h₁ h₂ h₃, h = h₁ ++ h₂ ++ h₃ ∧
    (∀ e ∈ h₁, Elsewhere e.1 e.2) ∧ hasRole actor "ADMIN" = true ∧
      GatePassed env actor input.gate h₂ ∧ SubmitsOnce input h₃

theorem propose_trace {o : Except Error MinedProposal}
    (hc : (propose env user input).Settles W s h o) : ProposeTrace env input h := by
  have helse : ∀ s t, Elsewhere s t → Elsewhere s t := fun _ _ h => h
  rcases Async.settles_bind.mp hc with ⟨e, rfl, he⟩ | ⟨h₁, h₂, actor, rfl, hactor, hc₂⟩
  · exact .inl (elsewhere_of_obeys (requireActor_obeys env helse user) he)
  have hread₁ := elsewhere_of_obeys (requireActor_obeys env helse user) hactor
  rw [assertAdmin] at hc₂
  split at hc₂
  case isFalse =>
    rw [Async.throw_eq, Async.rejected_bind] at hc₂
    obtain ⟨rfl, -⟩ := Async.settles_rejected.mp hc₂
    exact .inl (by simpa using hread₁)
  case isTrue hadmin =>
  rw [Async.pure_eq, Async.fulfilled_bind] at hc₂
  have hall : ∀ {h₂ : List (World × World)}, (∀ e ∈ h₂, Elsewhere e.1 e.2) →
      ∀ e ∈ h₁ ++ h₂, Elsewhere e.1 e.2 := fun h₂ e he =>
    (List.mem_append.mp he).elim (hread₁ e) (h₂ e)
  rcases Async.settles_bind.mp hc₂ with ⟨e, rfl, he⟩ | ⟨h₃, h₄, _, rfl, hgate, hc₄⟩
  · rcases requireGovernanceAssurance_cases he with ⟨hread, -⟩ | ⟨ho, -⟩
    · exact .inl (hall hread)
    · cases ho
  refine .inr ⟨actor, h₁, h₃, h₄, by simp, hread₁, hadmin, ?_, ?_⟩
  · rcases requireGovernanceAssurance_cases hgate with ⟨hread, hok⟩ | ⟨-, hclaims⟩
    · exact .inl ⟨hread, hok rfl⟩
    · exact .inr hclaims
  cases hbesu : env.besu with
  | none =>
    rw [hbesu] at hc₄
    exact .inl (elsewhere_of_obeys (Async.obeys_throw _) hc₄)
  | some besu =>
    rw [hbesu] at hc₄
    rcases Async.settles_bind.mp hc₄ with ⟨e, rfl, he⟩ | ⟨h₅, h₆, account, rfl, haccount, hc₆⟩
    · exact .inl (elsewhere_of_obeys (proposeAccount_obeys env helse besu _) he)
    have hread₅ := elsewhere_of_obeys (proposeAccount_obeys env helse besu _) haccount
    rcases Async.settles_bind.mp hc₆ with ⟨e, rfl, he⟩ | ⟨h₇, h₈, result, rfl, hsubmit, hc₈⟩
    · obtain ⟨t, rfl⟩ := proposeGovernanceAction_settles he
      exact .inr ⟨h₅, t, _, [], _, rfl, hread₅, by simp, rfl, rfl, rfl⟩
    · obtain ⟨t, rfl⟩ := proposeGovernanceAction_settles hsubmit
      exact .inr ⟨h₅, t, _, h₈, _, rfl, hread₅, elsewhere_of_obeys
        ((audit_obeys env helse ..).bind fun _ => Async.obeys_pure _) hc₈, rfl, rfl, rfl⟩

theorem propose_run {C : GovernanceConfig → Move GovernanceCall World → Prop} {w₀ : World}
    {c : GovernanceConfig} (h₀ : ChallengesOk w₀) (hc : (governanceSystem env).Reach C w₀ c) {i : ℕ}
    {p : Promise GovernanceReply} (hi : c.threads i = some ⟨.propose user input, p⟩) :
    ∃ rest, ProposeTrace env input (c.history i ++ rest) ∧
      (∀ effect next, p = .pending effect next →
        ∃ rest', rest = (c.shared, effect c.shared) :: rest') := by
  have hD := governance_discipline env
  obtain ⟨hinv, hth⟩ := hD.reach h₀ hc
  obtain ⟨s, hs⟩ := hD.settles_of_rest h₀ hc hi
  have hrest := hs _ _ (Async.settles_runAlone (fun _ h => ⟨.refl, h⟩) hD.keep (hth i _ hi) hinv)
  refine ⟨(p.runAlone c.shared).1, ?_, fun effect next hp => ⟨_, by rw [hp, Async.runAlone]⟩⟩
  rcases Async.settles_bind.mp hrest with ⟨e, -, he⟩ | ⟨h₁, h₂, a, hh, ha, hpure⟩
  · exact propose_trace he
  · obtain ⟨rfl, -⟩ := Async.settles_pure.mp hpure
    rw [List.append_nil] at hh
    exact hh ▸ propose_trace ha

end

end Sampraan.Governance
