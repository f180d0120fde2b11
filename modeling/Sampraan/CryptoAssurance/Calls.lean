import Sampraan.CryptoAssurance.Ledger

/-! What the statements of each call do to the challenges. -/

namespace Sampraan.CryptoAssurance

open Backend Library

variable (env : Environment) {I : World → Prop} {T : World → World → Prop}

section

variable (helse : ∀ s t, Elsewhere s t → T s t)

include helse

theorem obeys_read {α : Type} (f : World → α) : (Async.query f : Promise α).Obeys I T :=
  Async.obeys_query fun s => helse s s (.refl s)

theorem createAuditEvent_obeys (event : AuditEventRow) :
    (createAuditEvent env event).Obeys I T := by
  refine Async.Obeys.ite ?_ (Async.obeys_pure _)
  exact Async.Obeys.bind (Async.obeys_statement fun s _ => helse _ _ ⟨rfl, le_rfl, rfl⟩) fun _ =>
    obeys_read helse _

theorem auditAssurance_obeys (actor action : String) (decision : AuditDecision)
    (resourceType resourceId reason : String) :
    (auditAssurance env actor action decision resourceType resourceId reason).Obeys I T :=
  createAuditEvent_obeys env helse _

theorem getActivePqcKeyRecord_obeys (did : String) :
    (getActivePqcKeyRecord env did).Obeys I T :=
  .ite (Async.obeys_pure _) (obeys_read helse _)

omit helse in
theorem newLocalDevProvider_obeys (operatorKey : String) :
    (newLocalDevProvider operatorKey).Obeys I T :=
  .ite (Async.obeys_throw _) (Async.obeys_pure _)

omit helse in
theorem resolvePqcKeyProvider_obeys : (resolvePqcKeyProvider env).Obeys I T := by
  unfold resolvePqcKeyProvider
  dsimp only
  refine Async.Obeys.ite ?_ ?_
  · exact .ite (Async.obeys_pure _) (.ite (newLocalDevProvider_obeys _) (Async.obeys_pure _))
  · exact .ite (Async.obeys_pure _) (.ite (newLocalDevProvider_obeys _) (Async.obeys_pure _))

omit helse in
theorem derivePqcKeyPair_obeys (operatorKey did : String) :
    (derivePqcKeyPair env operatorKey did).Obeys I T :=
  .ite (Async.obeys_throw _) (.ite (Async.obeys_throw _) (Async.obeys_pure _))

theorem resolvePublicKey_obeys (did : String) (provider : PqcKeyProvider) :
    (provider.resolvePublicKey env did).Obeys I T := by
  cases provider with
  | registered => exact (getActivePqcKeyRecord_obeys env helse did).bind fun _ => Async.obeys_pure _
  | localDev operatorKey =>
    refine (getActivePqcKeyRecord_obeys env helse did).bind fun record => ?_
    cases record with
    | none => exact (derivePqcKeyPair_obeys env operatorKey did).bind fun _ => Async.obeys_pure _
    | some record => exact Async.obeys_pure _

theorem resolvePqcPublicKey_obeys (did : String) : (resolvePqcPublicKey env did).Obeys I T :=
  (resolvePqcKeyProvider_obeys env).bind fun _ => resolvePublicKey_obeys env helse did _

theorem resolveActorCrypto_obeys (did : String) : (resolveActorCrypto env did).Obeys I T := by
  refine Async.Obeys.ite (Async.obeys_pure _) ((obeys_read helse _).bind fun record => ?_)
  cases record with
  | none => exact Async.obeys_pure _
  | some record =>
    exact .ite (Async.obeys_pure _) (.ite (Async.obeys_pure _) (Async.obeys_pure _))

/-! ### Issue -/

theorem createAssuranceChallenge_obeys (row : AssuranceChallengeRow)
    (hissue : ∀ s t, I s → insertChallenge row s = some t → T s t) :
    (createAssuranceChallenge env row).Obeys I T := by
  refine .ite (Async.obeys_pure _) (Async.Obeys.bind ?_ fun _ => obeys_read helse _)
  refine Async.Obeys.bind (Async.obeys_statement fun s hs => ?_) fun done =>
    .ite (Async.obeys_pure _) (Async.obeys_throw _)
  cases hins : insertChallenge row s with
  | none => exact helse s s (.refl s)
  | some t => exact hissue s t hs hins

theorem persistChallenge_obeys (input : IssueAssuranceInput) (ecdsaKey : String)
    (pqcKey : Option String)
    (hissue : ∀ issuedAt expiresAt s t, I s →
      insertChallenge (challengeRow env input ecdsaKey pqcKey issuedAt expiresAt) s = some t →
        T s t) :
    (persistChallenge env input ecdsaKey pqcKey).Obeys I T := by
  refine (obeys_read helse _).bind fun issuedAt => (obeys_read helse _).bind fun now => ?_
  refine (createAssuranceChallenge_obeys env helse _ (hissue _ _)).bind fun stored => ?_
  cases stored with
  | none => exact Async.obeys_pure _
  | some stored => exact (auditAssurance_obeys env helse ..).bind fun _ => Async.obeys_pure _

theorem issueAssuranceChallenge_obeys (input : IssueAssuranceInput)
    (hissue : ∀ ecdsaKey pqcKey issuedAt expiresAt s t, I s →
      insertChallenge (challengeRow env input ecdsaKey pqcKey issuedAt expiresAt) s = some t →
        T s t) :
    (issueAssuranceChallenge env input).Obeys I T := by
  refine Async.Obeys.ite (Async.obeys_pure _) (.ite (Async.obeys_pure _) ?_)
  refine (resolveActorCrypto_obeys env helse _).bind fun crypto => ?_
  cases crypto with
  | failed code reason => exact Async.obeys_pure _
  | resolved ecdsaKey =>
    refine Async.Obeys.ite ?_ (persistChallenge_obeys env helse input ecdsaKey none (hissue _ _))
    refine (resolvePqcPublicKey_obeys env helse _).bind fun resolved => ?_
    cases resolved with
    | none => exact (auditAssurance_obeys env helse ..).bind fun _ => Async.obeys_pure _
    | some resolved => exact persistChallenge_obeys env helse input ecdsaKey _ (hissue _ _)

/-! ### Verify -/

theorem consumeAssuranceChallengeAtomic_obeys (identityId nonce : String)
    (hconsume : ∀ s, I s → T s (consumeChallengeIn identityId nonce s)) :
    (consumeAssuranceChallengeAtomic env identityId nonce).Obeys I T :=
  .ite (Async.obeys_pure _) (Async.Obeys.bind (Async.obeys_statement hconsume) fun _ =>
    .ite (Async.obeys_pure _) (obeys_read helse _))

omit helse in
theorem markAssuranceHalfVerified_obeys (id : String) (e p : Bool)
    (hmark : ∀ s, I s → T s (markChallengeIn id e p s)) :
    (markAssuranceHalfVerified env id e p).Obeys I T :=
  .ite (Async.obeys_pure _) (Async.obeys_statement hmark)

theorem refuseChallenge_obeys (input : VerifyAssuranceInput) (challenge : AssuranceChallengeRow)
    (e : Bool) (code reason : String)
    (hmark : ∀ s, I s → T s (markChallengeIn challenge.id e false s)) :
    (refuseChallenge env input challenge e code reason).Obeys I T :=
  (markAssuranceHalfVerified_obeys env _ _ _ hmark).bind fun _ =>
    (auditAssurance_obeys env helse ..).bind fun _ => Async.obeys_pure _

theorem acceptChallenge_obeys (input : VerifyAssuranceInput) (challenge : AssuranceChallengeRow)
    (needsPqc : Bool) (hmark : ∀ s, I s → T s (markChallengeIn challenge.id true needsPqc s)) :
    (acceptChallenge env input challenge needsPqc).Obeys I T :=
  (markAssuranceHalfVerified_obeys env _ _ _ hmark).bind fun _ =>
    (auditAssurance_obeys env helse ..).bind fun _ => Async.obeys_pure _

theorem verifyPqcHalf_obeys (input : VerifyAssuranceInput) (challenge : AssuranceChallengeRow)
    (hmark : ∀ p s, I s → T s (markChallengeIn challenge.id true p s)) :
    (verifyPqcHalf env input challenge).Obeys I T := by
  refine (resolvePqcPublicKey_obeys env helse _).bind fun resolved => ?_
  cases resolved.filter fun key => some key.keyIdentifier == challenge.pqcKeyIdentifier with
  | none => exact refuseChallenge_obeys env helse _ _ _ _ _ (hmark _)
  | some key =>
    exact .ite (refuseChallenge_obeys env helse _ _ _ _ _ (hmark _))
      (.ite (refuseChallenge_obeys env helse _ _ _ _ _ (hmark _))
        (acceptChallenge_obeys env helse _ _ _ (hmark _)))

theorem verifySignatures_obeys (input : VerifyAssuranceInput) (challenge : AssuranceChallengeRow)
    (hmark : ∀ e p s, I s → T s (markChallengeIn challenge.id e p s)) :
    (verifySignatures env input challenge).Obeys I T := by
  unfold verifySignatures
  cases env.ethers.verifyMessage challenge.message input.ecdsaSignature with
  | none => exact refuseChallenge_obeys env helse _ _ _ _ _ (hmark _ _)
  | some recovered =>
    exact .ite (refuseChallenge_obeys env helse _ _ _ _ _ (hmark _ _))
      (.ite (verifyPqcHalf_obeys env helse _ _ (hmark _))
        (acceptChallenge_obeys env helse _ _ _ (hmark _ _)))

theorem verifyConsumedChallenge_obeys (input : VerifyAssuranceInput)
    (challenge : AssuranceChallengeRow)
    (hmark : ∀ e p s, I s → T s (markChallengeIn challenge.id e p s)) :
    (verifyConsumedChallenge env input challenge).Obeys I T := by
  refine (obeys_read helse _).bind fun identity => ?_
  cases identity with
  | none => exact Async.obeys_pure _
  | some identity =>
    refine Async.Obeys.ite (Async.obeys_pure _) ((obeys_read helse _).bind fun didRow => ?_)
    cases didRow with
    | none => exact Async.obeys_pure _
    | some didRow =>
      exact .ite (Async.obeys_pure _) (.ite (Async.obeys_pure _) (.ite (Async.obeys_pure _)
        (verifySignatures_obeys env helse input challenge hmark)))

theorem answerChallenge_obeys (input : VerifyAssuranceInput)
    (challenge : Option AssuranceChallengeRow)
    (hmark : ∀ r e p s, challenge = some r → I s → T s (markChallengeIn r.id e p s)) :
    (answerChallenge env input challenge).Obeys I T := by
  cases challenge with
  | none => exact (auditAssurance_obeys env helse ..).bind fun _ => Async.obeys_pure _
  | some challenge =>
    exact verifyConsumedChallenge_obeys env helse input challenge fun e p s =>
      hmark challenge e p s rfl

theorem verifyAssuranceChallenge_obeys (input : VerifyAssuranceInput)
    (hconsume : ∀ s, I s → T s (consumeChallengeIn input.identityId input.nonce s))
    (hmark : ∀ id e p s, I s → T s (markChallengeIn id e p s)) :
    (verifyAssuranceChallenge env input).Obeys I T :=
  .ite (Async.obeys_pure _) <|
    (consumeAssuranceChallengeAtomic_obeys env helse _ _ hconsume).bind fun _ =>
      answerChallenge_obeys env helse input _ fun r e p s _ => hmark r.id e p s

/-! ### Claim -/

theorem claimAssuranceGrant_obeys (input : ClaimAssuranceInput)
    (hexecute : ∀ id s, I s → T s (executeChallengeIn id s)) :
    (claimAssuranceGrant env input).Obeys I T := by
  refine Async.Obeys.ite (Async.obeys_pure _) ?_
  refine Async.Obeys.bind (.ite (Async.obeys_pure _) (obeys_read helse _)) fun grant => ?_
  cases grant with
  | none => exact Async.obeys_pure _
  | some grant =>
    exact Async.Obeys.bind (.ite (Async.obeys_pure _) (Async.obeys_statement (hexecute _)))
      fun _ => .ite (Async.obeys_pure _) (Async.obeys_pure _)

end

end Sampraan.CryptoAssurance
