import Sampraan.CryptoAssurance.Verification

/-!
Issue, verify and claim calls of any number of clients, interleaved statement
by statement with anything that leaves the challenges alone.
-/

namespace Sampraan.CryptoAssurance

open Backend Library Relation

inductive AssuranceCall where
  | issue (input : IssueAssuranceInput)
  | verify (input : VerifyAssuranceInput)
  | claim (input : ClaimAssuranceInput)

inductive AssuranceReply where
  | issued (result : IssueAssuranceResult)
  | verified (result : VerifyAssuranceResult)
  | claimed (result : ClaimAssuranceResult)

variable (env : Environment)

def assuranceBody : AssuranceCall → Promise AssuranceReply
  | .issue input => do return .issued (← issueAssuranceChallenge env input)
  | .verify input => do return .verified (← verifyAssuranceChallenge env input)
  | .claim input => do return .claimed (← claimAssuranceGrant env input)

def assuranceSystem : System AssuranceCall World Error AssuranceReply where
  body := assuranceBody env
  interfere := Elsewhere

abbrev AssuranceConfig := Config AssuranceCall World Error AssuranceReply

/-- What a statement of a call may find after some steps of the others. -/
abbrev Found : World → World → Prop := System.Finds ChallengesOk ChallengesStep

theorem unused_challengeRow (input : IssueAssuranceInput) (ecdsaKey : String)
    (pqcKey : Option String) (issuedAt expiresAt : Time) :
    Unused (challengeRow env input ecdsaKey pqcKey issuedAt expiresAt) :=
  ⟨rfl, ⟨rfl, rfl⟩, rfl, rfl⟩

theorem assurance_discipline :
    (assuranceSystem env).Discipline ChallengesOk ChallengesStep where
  body call := by
    cases call with
    | issue input =>
      exact (issueAssuranceChallenge_obeys env (fun _ _ => .elsewhere) input
        fun _ _ _ _ _ _ _ => .issue (unused_challengeRow ..)).bind fun _ => Async.obeys_pure _
    | verify input =>
      exact (verifyAssuranceChallenge_obeys env (fun _ _ => .elsewhere) input
        (fun _ _ => .consume _ _) fun _ _ _ _ _ => .mark _ _ _).bind fun _ => Async.obeys_pure _
    | claim input =>
      exact (claimAssuranceGrant_obeys env (fun _ _ => .elsewhere) input
        fun _ _ _ => .execute _).bind fun _ => Async.obeys_pure _
  interfere _ _ _ h := .elsewhere h
  keep _ _ hs h := h.ok hs

/-! ### The statements of one call -/

def AssuranceCall.Effect (call : AssuranceCall) (s t : World) : Prop :=
  Elsewhere s t ∨
    match call with
    | .issue input => ∃ ecdsaKey pqcKey issuedAt expiresAt,
        insertChallenge (challengeRow env input ecdsaKey pqcKey issuedAt expiresAt) s = some t
    | .verify input => t = consumeChallengeIn input.identityId input.nonce s ∨
        ∃ id e p, t = markChallengeIn id e p s ∧
          ∃ r ∈ s.assuranceChallenges, r.id = id ∧ r.nonce = input.nonce
    | .claim _ => ∃ id, t = executeChallengeIn id s

variable {env}

theorem verifyAssuranceChallenge_eq {input : VerifyAssuranceInput}
    (h : env.databaseConfigured = true) :
    verifyAssuranceChallenge env input =
      Async.statement (fun w =>
        (Table.affectedRows (consumableChallenge input.identityId input.nonce w.now)
          w.assuranceChallenges, consumeChallengeIn input.identityId input.nonce w)) >>=
      fun affectedRows =>
        if affectedRows = 0 then answerChallenge env input none
        else Async.query (fun w => w.assuranceChallenges.find? (·.nonce == input.nonce)) >>=
          answerChallenge env input := by
  simp only [verifyAssuranceChallenge, consumeAssuranceChallengeAtomic, h, Bool.not_true,
    Bool.false_eq_true, if_false, Async.bind_assoc]
  congr 1
  funext affectedRows
  by_cases hzero : affectedRows = 0
  · simp only [hzero, if_true, Async.pure_eq, Async.fulfilled_bind]
  · simp only [hzero, if_false]

theorem mem_of_find?_nonce {rows : List AssuranceChallengeRow} {nonce : String}
    {r : AssuranceChallengeRow} (h : rows.find? (·.nonce == nonce) = some r) :
    r ∈ rows ∧ r.nonce = nonce :=
  ⟨List.mem_of_find?_eq_some h, by simpa using List.find?_some h⟩

def Holds (challenge : AssuranceChallengeRow) (w : World) : Prop :=
  ∃ r ∈ w.assuranceChallenges, Later challenge r

theorem Holds.found {challenge : AssuranceChallengeRow} {s t : World} (h : Found s t)
    (hs : Holds challenge s) : Holds challenge t := by
  obtain ⟨r, hr, hlater⟩ := hs
  obtain ⟨r', hr', hlater'⟩ := exists_later h.1 hr
  exact ⟨r', hr', hlater.trans hlater'⟩

theorem Holds.step {challenge : AssuranceChallengeRow} {s t : World} (h : ChallengesStep s t)
    (hs : Holds challenge s) : Holds challenge t := by
  obtain ⟨r, hr, hlater⟩ := hs
  obtain ⟨r', hr', hlater'⟩ := h.later r hr
  exact ⟨r', hr', hlater.trans hlater'⟩

theorem verify_effect_step {input : VerifyAssuranceInput} {s t : World}
    (h : (AssuranceCall.verify input).Effect env s t) : ChallengesStep s t := by
  rcases h with h | rfl | ⟨id, e, p, rfl, -⟩
  · exact .elsewhere h
  · exact .consume _ _
  · exact .mark _ _ _

theorem verify_behaves (input : VerifyAssuranceInput) (s : World) :
    (verifyAssuranceChallenge env input).Behaves Found
      ((AssuranceCall.verify input).Effect env) s := by
  have hread : ∀ s t, Elsewhere s t → (AssuranceCall.verify input).Effect env s t :=
    fun _ _ => .inl
  by_cases hconf : env.databaseConfigured
  case neg =>
    rw [verifyAssuranceChallenge, if_pos (by simpa using hconf)]
    exact .fulfilled _ _
  rw [verifyAssuranceChallenge_eq hconf]
  refine Async.behaves_statement_bind fun t _ => ⟨.inr (.inl rfl), ?_⟩
  have hnone := answerChallenge_obeys env (I := ChallengesOk) hread input none
    (fun _ _ _ _ h => nomatch h)
  refine Async.Behaves.ite (hnone.behaves (fun _ _ h => h.2) _) ?_
  refine Async.behaves_query_bind fun t₁ _ => ⟨hread _ _ (.refl _), ?_⟩
  cases hfind : t₁.assuranceChallenges.find? (·.nonce == input.nonce) with
  | none => exact hnone.behaves (fun _ _ h => h.2) _
  | some challenge =>
    obtain ⟨hmem, hnonce⟩ := mem_of_find?_nonce hfind
    refine Async.Obeys.behaves_of_kept (I := ChallengesOk) (P := Holds challenge) ?_
      (fun _ _ h => ⟨h.2, Holds.found h⟩) (fun _ _ _ h => Holds.step (verify_effect_step h))
      ⟨challenge, hmem, .refl _⟩
    refine answerChallenge_obeys env hread input _ fun r e p s hr hs => ?_
    obtain rfl := Option.some.inj hr
    obtain ⟨r', hr', hlater⟩ := hs.2
    exact .inr (.inr ⟨_, e, p, rfl, r', hr', hlater.id, hlater.nonce.trans hnonce⟩)

theorem assurance_effects (call : AssuranceCall) (s : World) :
    ((assuranceSystem env).body call).Behaves Found (call.Effect env) s := by
  cases call with
  | issue input =>
    refine (Async.Obeys.bind (issueAssuranceChallenge_obeys env (fun _ _ => .inl) input ?_)
      fun _ => Async.obeys_pure _).behaves (fun _ _ h => h.2) s
    exact fun ecdsaKey pqcKey issuedAt expiresAt s t _ h =>
      .inr ⟨ecdsaKey, pqcKey, issuedAt, expiresAt, h⟩
  | verify input => exact (verify_behaves input s).bind fun _ s' => .fulfilled _ s'
  | claim input =>
    refine (Async.Obeys.bind (claimAssuranceGrant_obeys env (fun _ _ => .inl) input ?_)
      fun _ => Async.obeys_pure _).behaves (fun _ _ h => h.2) s
    exact fun id s _ => .inr ⟨id, rfl⟩

/-! ### How a verification and a claim settle -/

section

variable {W : World → World → Prop} {s : World} {h : List (World × World)}

theorem affected_iff {p : AssuranceChallengeRow → Bool} {rows : List AssuranceChallengeRow} :
    0 < Table.affectedRows p rows ↔ ∃ r ∈ rows, p r = true :=
  List.countP_pos_iff

theorem verifyAssuranceChallenge_settles {input : VerifyAssuranceInput}
    {o : Except Error VerifyAssuranceResult} (hconf : env.databaseConfigured = true)
    (hc : (verifyAssuranceChallenge env input).Settles W s h o) :
    ∃ t₀ rest, W s t₀ ∧
      h = (t₀, consumeChallengeIn input.identityId input.nonce t₀) :: rest ∧
        ((∀ r ∈ t₀.assuranceChallenges,
            consumableChallenge input.identityId input.nonce t₀.now r = false) ∧
          (answerChallenge env input none).Settles W
            (consumeChallengeIn input.identityId input.nonce t₀) rest o ∨
        (∃ r ∈ t₀.assuranceChallenges,
            consumableChallenge input.identityId input.nonce t₀.now r = true) ∧
          ∃ t₁ rest', W (consumeChallengeIn input.identityId input.nonce t₀) t₁ ∧
            rest = (t₁, t₁) :: rest' ∧
              (answerChallenge env input
                (t₁.assuranceChallenges.find? (·.nonce == input.nonce))).Settles W t₁ rest' o) := by
  rw [verifyAssuranceChallenge_eq hconf, Async.settles_statement_bind] at hc
  obtain ⟨t₀, rest, ht₀, rfl, hc⟩ := hc
  refine ⟨t₀, rest, ht₀, rfl, ?_⟩
  split at hc
  case isTrue hzero => exact .inl ⟨Table.affectedRows_eq_zero.mp hzero, hc⟩
  case isFalse hzero =>
    rw [Async.settles_query_bind] at hc
    exact .inr ⟨affected_iff.mp (Nat.pos_of_ne_zero hzero), hc⟩

theorem validGrant_eq_true {input : ClaimAssuranceInput} {id : String} {since : Time}
    {row : AssuranceChallengeRow} : validGrant input id since row = true ↔
      row.id = id ∧ row.identityId = input.identityId ∧ row.operation = input.operation ∧
        row.resourceType = input.resourceType ∧ row.resourceId = input.resourceId ∧
          ∃ τ, row.consumedAt = some τ ∧ since < τ := by
  simp only [validGrant, Bool.and_eq_true, beq_iff_eq, Option.any_eq_true, decide_eq_true_eq,
    and_assoc]

theorem elsewhere_of_miss {id : String} {w : World}
    (h : ∀ r ∈ w.assuranceChallenges, claimable id r = false) :
    Elsewhere w (executeChallengeIn id w) :=
  ⟨Table.update_eq_self h, le_rfl, rfl⟩

theorem claimAssuranceGrant_cases {input : ClaimAssuranceInput}
    {o : Except Error ClaimAssuranceResult}
    (hc : (claimAssuranceGrant env input).Settles W s h o) :
    ((∀ e ∈ h, Elsewhere e.1 e.2) ∧ ∃ reason, o = .ok (.failed reason)) ∨
      ∃ id t₁ t₂ r, input.grantId = some id ∧ W s t₁ ∧ W t₁ t₂ ∧
        h = [(t₁, t₁), (t₂, executeChallengeIn id t₂)] ∧ r ∈ t₁.assuranceChallenges ∧
          validGrant input id (t₁.now - assuranceGrantValidityMs) r = true ∧
            Executes id t₂ (executeChallengeIn id t₂) ∧ o = .ok (.ok r.assuranceLevel) := by
  rw [claimAssuranceGrant] at hc
  split at hc
  · obtain ⟨rfl, rfl⟩ := Async.settles_pure.mp hc
    exact .inl ⟨by simp, _, rfl⟩
  case isFalse hid =>
  obtain ⟨id, hgrant⟩ : ∃ id, input.grantId = some id := by
    cases hg : input.grantId with
    | none => exact absurd (by rw [hg, Option.getD_none]) hid
    | some id => exact ⟨id, rfl⟩
  rw [hgrant, Option.getD_some, findValidAssuranceGrant] at hc
  split at hc
  · obtain ⟨rfl, rfl⟩ := Async.settles_pure.mp hc
    exact .inl ⟨by simp, _, rfl⟩
  rw [Async.settles_query_bind] at hc
  obtain ⟨t₁, rest, ht₁, rfl, hc⟩ := hc
  cases hfind : t₁.assuranceChallenges.find?
      (validGrant input id (t₁.now - assuranceGrantValidityMs)) with
  | none =>
    rw [hfind] at hc
    obtain ⟨rfl, rfl⟩ := Async.settles_pure.mp hc
    exact .inl ⟨by simpa using Elsewhere.refl t₁, _, rfl⟩
  | some r =>
    have hvalid := List.find?_some hfind
    have hrid : r.id = id := (validGrant_eq_true.mp hvalid).1
    rw [hfind] at hc
    dsimp only at hc
    rw [claimAssuranceGrantExecution, hrid] at hc
    split at hc
    case isTrue =>
      obtain ⟨rfl, rfl⟩ := Async.settles_pure.mp hc
      exact .inl ⟨by simpa using Elsewhere.refl t₁, _, rfl⟩
    rw [Async.settles_statement_bind] at hc
    obtain ⟨t₂, rest', ht₂, rfl, hc⟩ := hc
    split at hc
    case isFalse hmiss =>
      obtain ⟨rfl, rfl⟩ := Async.settles_pure.mp hc
      refine .inl ⟨List.forall_mem_cons.mpr ⟨.refl t₁, ?_⟩, _, rfl⟩
      rw [decide_eq_true_eq, affected_iff] at hmiss
      simpa using elsewhere_of_miss fun r hr => Bool.eq_false_iff.mpr fun h => hmiss ⟨r, hr, h⟩
    case isTrue hclaimed =>
    obtain ⟨rfl, rfl⟩ := Async.settles_pure.mp hc
    exact .inr ⟨id, t₁, t₂, r, hgrant, ht₁, ht₂, rfl, List.mem_of_find?_eq_some hfind, hvalid,
      ⟨rfl, affected_iff.mp (of_decide_eq_true hclaimed)⟩, rfl⟩

theorem consumes_of_found {identityId nonce : String} {t₀ t₁ : World}
    {challenge : AssuranceChallengeRow}
    (hany : ∃ r ∈ t₀.assuranceChallenges, consumableChallenge identityId nonce t₀.now r = true)
    (ht₁ : Found (consumeChallengeIn identityId nonce t₀) t₁)
    (hmem : challenge ∈ t₁.assuranceChallenges) (hnonce : challenge.nonce = nonce) :
    Consumes challenge.id t₀ (consumeChallengeIn identityId nonce t₀) ∧
      challenge.consumedAt = some t₀.now ∧ challenge.identityId = identityId := by
  obtain ⟨r, hr, hcons⟩ := hany
  have hr' : { r with consumedAt := some t₀.now } ∈
      (consumeChallengeIn identityId nonce t₀).assuranceChallenges :=
    Table.mem_update.mpr ⟨r, hr, by rw [if_pos hcons]⟩
  have hrow : r.nonce = nonce ∧ r.identityId = identityId := by
    simp only [consumableChallenge, Bool.and_eq_true, beq_iff_eq] at hcons
    exact hcons.1.1
  have hlater := later_of_nonce ht₁.1 ht₁.2 hr' hmem (hnonce.trans hrow.1.symm)
  exact ⟨⟨identityId, nonce, rfl, r, hr, hlater.id.symm, hcons⟩, hlater.consumedAt _ rfl,
    hlater.identityId.trans hrow.2⟩

end

/-! ### Settled calls of a run -/

section

variable {C : AssuranceConfig → Move AssuranceCall World → Prop} {w₀ : World} {c : AssuranceConfig}
  {i : ℕ}

theorem verify_history (h₀ : ChallengesOk w₀) (hc : (assuranceSystem env).Reach C w₀ c)
    {input : VerifyAssuranceInput} {result : VerifyAssuranceResult} {id : String}
    (hret : c.Returned i (.verify input) (.verified result)) (hid : result.grantId? = some id) :
    env.databaseConfigured = true ∧ ∃ t₀ t₁ challenge rest,
      c.history i = (t₀, consumeChallengeIn input.identityId input.nonce t₀) :: (t₁, t₁) :: rest ∧
        Found (consumeChallengeIn input.identityId input.nonce t₀) t₁ ∧
          challenge ∈ t₁.assuranceChallenges ∧ challenge.identityId = input.identityId ∧
            challenge.consumedAt = some t₀.now ∧
              Consumes challenge.id t₀ (consumeChallengeIn input.identityId input.nonce t₀) ∧
                (verifyConsumedChallenge env input challenge).Settles Found t₁ rest (.ok result) := by
  obtain ⟨s, hs⟩ := (assurance_discipline env).settles h₀ hc (o := .ok (.verified result)) hret
  obtain ⟨h₁, h₂, _, hh, hv, hpure⟩ := Async.settles_bind_ok.mp hs
  obtain ⟨rfl, ho⟩ := Async.settles_pure.mp hpure
  obtain rfl := AssuranceReply.verified.inj (Except.ok.inj ho)
  by_cases hconf : env.databaseConfigured
  case neg =>
    rw [verifyAssuranceChallenge, if_pos (by simpa using hconf)] at hv
    rw [Except.ok.inj (Async.settles_pure.mp hv).2] at hid
    cases hid
  refine ⟨hconf, ?_⟩
  have hnone : ∀ {s h}, ¬ (answerChallenge env input none).Settles Found s h (.ok result) := by
    intro s h hc
    obtain ⟨h₃, h₄, _, -, -, hc⟩ := Async.settles_bind_ok.mp hc
    rw [Except.ok.inj (Async.settles_pure.mp hc).2] at hid
    cases hid
  obtain ⟨t₀, rest, ht₀, rfl, ⟨-, hc'⟩ | ⟨hany, t₁, rest', ht₁, rfl, hc'⟩⟩ :=
    verifyAssuranceChallenge_settles hconf hv
  · exact absurd hc' hnone
  cases hfind : t₁.assuranceChallenges.find? (·.nonce == input.nonce) with
  | none =>
    rw [hfind] at hc'
    exact absurd hc' hnone
  | some challenge =>
    rw [hfind] at hc'
    obtain ⟨hmem, hnonce⟩ := mem_of_find?_nonce hfind
    obtain ⟨hcons, hat, hidentity⟩ := consumes_of_found hany ht₁ hmem hnonce
    exact ⟨t₀, t₁, challenge, rest', by rw [hh, List.append_nil], ht₁, hmem, hidentity, hat, hcons,
      hc'⟩

theorem claim_history (h₀ : ChallengesOk w₀) (hc : (assuranceSystem env).Reach C w₀ c)
    {input : ClaimAssuranceInput} {level : AssuranceLevel}
    (hret : c.Returned i (.claim input) (.claimed (.ok level))) :
    ∃ id t₁ t₂ r, input.grantId = some id ∧ ChallengesOk t₁ ∧ Found t₁ t₂ ∧
      c.history i = [(t₁, t₁), (t₂, executeChallengeIn id t₂)] ∧ r ∈ t₁.assuranceChallenges ∧
        validGrant input id (t₁.now - assuranceGrantValidityMs) r = true ∧
          Executes id t₂ (executeChallengeIn id t₂) := by
  obtain ⟨s, hs⟩ := (assurance_discipline env).settles h₀ hc (o := .ok (.claimed (.ok level))) hret
  obtain ⟨h₁, h₂, _, hh, hv, hpure⟩ := Async.settles_bind_ok.mp hs
  obtain ⟨rfl, ho⟩ := Async.settles_pure.mp hpure
  obtain rfl := AssuranceReply.claimed.inj (Except.ok.inj ho)
  obtain ⟨-, _, hfail⟩ | ⟨id, t₁, t₂, r, hgrant, ht₁, ht₂, rfl, hr, hvalid, hexec, -⟩ :=
    claimAssuranceGrant_cases hv
  · cases hfail
  exact ⟨id, t₁, t₂, r, hgrant, ht₁.2, ht₂, by rw [hh, List.append_nil], hr, hvalid, hexec⟩

end

/-! ### A sample challenge -/

def sampleIssue : IssueAssuranceInput where
  identityId := "holder"
  did := "did:sampraan:holder"
  identityStatus := .active
  lifecycleState := .verified
  role := "USER"
  operation := .pauseRegistry
  resourceType := "GOVERNANCE"
  resourceId := "PAUSE_REGISTRY"
  policyInput :=
    { assetClassification := none
      riskLevel := none
      riskScore := none
      custodyRelation := none
      approvalStatus := none
      stepUpSatisfied := false }
  challengeId := "challenge"
  nonce := "nonce"

def sampleVerify (signature : String) : VerifyAssuranceInput where
  identityId := "holder"
  nonce := "nonce"
  ecdsaSignature := signature
  pqcSignature := none
  operatorKey := "0x01"

def sampleClaim : ClaimAssuranceInput where
  identityId := "holder"
  grantId := some "challenge"
  operation := .pauseRegistry
  resourceType := "GOVERNANCE"
  resourceId := "PAUSE_REGISTRY"

/-- The challenge is issued, answered with `signature` and claimed; `delay` passes between the
lookup and the claiming update. -/
def sampleSchedule (signature : String) (delay : ℕ) : List (Move AssuranceCall World) :=
  .start 0 (.issue sampleIssue) :: List.replicate 7 (.run 0) ++
    .start 1 (.verify (sampleVerify signature)) :: List.replicate 7 (.run 1) ++
    [.start 2 (.claim sampleClaim), .run 2, .interfere fun w => { w with now := w.now + delay },
      .run 2]

theorem sampleSchedule_harmless (signature : String) (delay : ℕ) :
    ∀ m ∈ sampleSchedule signature delay, (assuranceSystem sampleEnvironment).Harmless m := by
  intro m hm
  cases m with
  | start i call => trivial
  | run i => trivial
  | interfere f =>
    have hf : f = fun w => { w with now := w.now + delay } := by
      simpa [sampleSchedule] using hm
    intro s
    rw [hf]
    exact ⟨rfl, Int.le_add_of_nonneg_right (Int.natCast_nonneg delay), rfl⟩

end Sampraan.CryptoAssurance
