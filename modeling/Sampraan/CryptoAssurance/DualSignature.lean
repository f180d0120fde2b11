import Sampraan.CryptoAssurance.Grants

/-! What the two signatures of an accepted verification were checked against, and when. -/

namespace Sampraan.CryptoAssurance

open Backend Library

variable {env : Environment} {w₀ : World} {c : AssuranceConfig} {i : ℕ}

/-- The verification consumed a challenge at `t₀` and read it back at `t₁`; after that it re-read
the identity at `t₂`, the DID record at `t₃` and, for a hardened challenge, the post-quantum key at
`t₄`. -/
structure DualSigned (env : Environment) (input : VerifyAssuranceInput) (grantId : String)
    (history : List (World × World)) (t₀ t₁ t₂ t₃ : World) (rest : List (World × World))
    (challenge : AssuranceChallengeRow) : Prop where
  history : history =
    (t₀, consumeChallengeIn input.identityId input.nonce t₀) :: (t₁, t₁) :: (t₂, t₂) :: (t₃, t₃) ::
      rest
  order : Found (consumeChallengeIn input.identityId input.nonce t₀) t₁ ∧ Found t₁ t₂ ∧ Found t₂ t₃
  consumed : challenge ∈ t₁.assuranceChallenges ∧ challenge.id = grantId ∧
    Consumes grantId t₀ (consumeChallengeIn input.identityId input.nonce t₀)
  identity : challenge.identityId = input.identityId ∧ IdentityUsable challenge.identityId t₂
  key : KeyUsable env challenge t₃
  ecdsa : EcdsaVerifies env challenge.message input.ecdsaSignature input.operatorKey challenge.did
  pqc : challenge.assuranceLevel = .quantumHardened →
    ∃ t₄ rest', Found t₃ t₄ ∧ rest = (t₄, t₄) :: rest' ∧ PqcHalf env input challenge t₄

/-- A verification that returns ok has checked every signature that the level demands. -/
theorem verifyAssuranceChallenge_sound (h₀ : ChallengesOk w₀)
    (hc : (assuranceSystem env).Reachable w₀ c) {input : VerifyAssuranceInput}
    {result : VerifyAssuranceResult} {grantId : String}
    (hret : c.Returned i (.verify input) (.verified result))
    (hid : result.grantId? = some grantId) :
    ∃ t₀ t₁ t₂ t₃ rest challenge,
      DualSigned env input grantId (c.history i) t₀ t₁ t₂ t₃ rest challenge := by
  obtain ⟨hconf, t₀, t₁, challenge, rest, hh, ht₁, hmem, hidentity, hat, hcons, hsettles⟩ :=
    verify_history h₀ hc hret hid
  obtain ⟨rfl, t₂, t₃, rest', ht₂, ht₃, rfl, husable, hkey, hecdsa, hpqc⟩ :=
    verifyConsumedChallenge_settles hconf hsettles hid
  refine ⟨t₀, t₁, t₂, t₃, rest', challenge, hh, ⟨ht₁, ht₂, ht₃⟩, ⟨hmem, rfl, hcons⟩,
    ⟨hidentity, hidentity.symm ▸ husable⟩, hkey, hecdsa, fun hlevel => hpqc ?_⟩
  rw [ht₁.2.algorithms challenge hmem, mlDsa65_mem_algorithmByLevel]
  exact hlevel

/-! ### The other direction: signatures that verify are accepted -/

/-- Run without interruption from `w`, the call grants the challenge and marks its row. -/
def Accepts (p : Promise VerifyAssuranceResult) (w : World) (challenge : AssuranceChallengeRow) :
    Prop :=
  ∃ result events, p.Ends w result
    { markChallengeIn challenge.id true (decide (.mlDsa65 ∈ challenge.requiredAlgorithms)) w with
      auditEvents := events } ∧ result.grantId? = some challenge.id

theorem createAuditEvent_ends (hconf : env.databaseConfigured = true) (event : AuditEventRow)
    (w : World) : (createAuditEvent env event).Ends w ()
      { w with auditEvents := w.auditEvents ++ [event] } := by
  rw [createAuditEvent, if_pos hconf]
  exact Async.ends_statement.bind (Async.ends_query rfl)

section

variable {input : VerifyAssuranceInput} {challenge : AssuranceChallengeRow} {w : World}

theorem acceptChallenge_accepts (hconf : env.databaseConfigured = true) :
    Accepts (acceptChallenge env input challenge (decide (.mlDsa65 ∈ challenge.requiredAlgorithms)))
      w challenge := by
  have hmark : ∀ e p, (markAssuranceHalfVerified env challenge.id e p).Ends w ()
      (markChallengeIn challenge.id e p w) := by
    intro e p
    rw [markAssuranceHalfVerified, if_neg (by simp [hconf])]
    exact Async.ends_statement
  exact ⟨_, _, (hmark _ _).bind ((createAuditEvent_ends hconf _ _).bind Async.ends_pure), rfl⟩

def PqcAnswered (env : Environment) (input : VerifyAssuranceInput)
    (challenge : AssuranceChallengeRow) (w : World) : Prop :=
  ∃ key signature, ((resolvePqcPublicKey env challenge.did).runAlone w).2 = .ok (some key) ∧
    challenge.pqcKeyIdentifier = some key.keyIdentifier ∧
      input.pqcSignature = some signature ∧ signature ≠ "" ∧
        PqcVerifies env challenge.message key.publicKey signature

theorem verifyPqcHalf_accepts (hconf : env.databaseConfigured = true)
    (hpqc : .mlDsa65 ∈ challenge.requiredAlgorithms) (h : PqcAnswered env input challenge w) :
    Accepts (verifyPqcHalf env input challenge) w challenge := by
  obtain ⟨key, signature, hresolve, hkey, hsignature, hne, hverify⟩ := h
  have hends : (resolvePqcPublicKey env challenge.did).Ends w (some key) w := by
    have hsettles := Async.settles_alone (resolvePqcPublicKey env challenge.did) w
    rw [hresolve] at hsettles
    obtain ⟨t, rfl, hh, -⟩ := resolvePqcPublicKey_settles hconf hsettles
    exact ⟨_, hsettles, by rw [hh, Async.lastState, Async.lastState]⟩
  have haccepts : Accepts (acceptChallenge env input challenge _) w challenge :=
    acceptChallenge_accepts hconf
  obtain ⟨result, events, haccept, hid⟩ := haccepts
  refine ⟨result, events, hends.bind ?_, hid⟩
  rw [Option.filter_some, hkey, BEq.rfl, if_pos rfl]
  dsimp only
  rw [hsignature, Option.getD_some, if_neg hne, verifyMessageSignature_iff.mpr hverify,
    Bool.not_true, if_neg Bool.false_ne_true]
  simpa only [hpqc, decide_true] using haccept

structure Answered (env : Environment) (input : VerifyAssuranceInput)
    (challenge : AssuranceChallengeRow) (w : World) : Prop where
  identity : IdentityUsable input.identityId w
  key : KeyUsable env challenge w
  audience : challenge.audience = assuranceAudience env
  ecdsa : EcdsaVerifies env challenge.message input.ecdsaSignature input.operatorKey challenge.did
  pqc : .mlDsa65 ∈ challenge.requiredAlgorithms → PqcAnswered env input challenge w

theorem verifySignatures_accepts (hconf : env.databaseConfigured = true)
    (h : Answered env input challenge w) :
    Accepts (verifySignatures env input challenge) w challenge := by
  obtain ⟨recovered, hrecovered, hwallet⟩ := h.ecdsa
  rw [verifySignatures, hrecovered]
  dsimp only
  rw [if_neg (not_not.mpr hwallet)]
  split
  case isTrue hpqc => exact verifyPqcHalf_accepts hconf hpqc (h.pqc hpqc)
  case isFalse hpqc =>
    have haccepts : Accepts (acceptChallenge env input challenge _) w challenge :=
      acceptChallenge_accepts hconf
    simpa only [hpqc, decide_false] using haccepts

theorem verifyConsumedChallenge_accepts (hconf : env.databaseConfigured = true)
    (h : Answered env input challenge w) :
    Accepts (verifyConsumedChallenge env input challenge) w challenge := by
  obtain ⟨identity, hidentity, hstatus, hstate⟩ := h.identity
  obtain ⟨didRow, hdid, hdidStatus, hkeyStatus, hcurrent⟩ := h.key
  obtain ⟨result, events, hsignatures, hid⟩ := verifySignatures_accepts hconf h
  have hselect : (selectIdentityById input.identityId).Ends w (some identity) w :=
    Async.ends_query hidentity
  have hrecord : (selectDidRecord challenge.did).Ends w (some didRow) w := Async.ends_query hdid
  refine ⟨result, events, hselect.bind ?_, hid⟩
  dsimp only
  rw [if_neg (by simp [hstatus, hstate])]
  refine hrecord.bind ?_
  dsimp only
  rwa [if_neg (by simp [hdidStatus, hkeyStatus]), if_neg (not_not.mpr h.audience),
    if_neg (not_not.mpr hcurrent.symm)]

theorem verifyAssuranceChallenge_accepts (hconf : env.databaseConfigured = true)
    (hw : ChallengesOk w) (hhit : ∃ r ∈ w.assuranceChallenges,
      consumableChallenge input.identityId input.nonce w.now r = true)
    (hrow : challenge ∈ (consumeChallengeIn input.identityId input.nonce w).assuranceChallenges)
    (hnonce : challenge.nonce = input.nonce)
    (h : Answered env input challenge (consumeChallengeIn input.identityId input.nonce w)) :
    ∃ result events, (verifyAssuranceChallenge env input).Ends w result
      { markChallengeIn challenge.id true (decide (.mlDsa65 ∈ challenge.requiredAlgorithms))
          (consumeChallengeIn input.identityId input.nonce w) with
        auditEvents := events } ∧ result.grantId? = some challenge.id := by
  have hok : ChallengesOk (consumeChallengeIn input.identityId input.nonce w) :=
    (ChallengesStep.consume input.identityId input.nonce).ok hw
  have hfind : (Async.query fun w => w.assuranceChallenges.find? (·.nonce == input.nonce) :
      Promise (Option AssuranceChallengeRow)).Ends
        (consumeChallengeIn input.identityId input.nonce w) (some challenge)
          (consumeChallengeIn input.identityId input.nonce w) :=
    Async.ends_query (hnonce ▸ hok.nonces.find?_eq hrow)
  obtain ⟨result, events, hconsumed, hid⟩ := verifyConsumedChallenge_accepts hconf h
  refine ⟨result, events, ?_, hid⟩
  rw [verifyAssuranceChallenge_eq hconf]
  refine Async.ends_statement.bind ?_
  rw [if_neg (affected_iff.mpr hhit).ne']
  exact hfind.bind hconsumed

end

/-! ### A hardened challenge -/

def hardenedIssue : IssueAssuranceInput :=
  { sampleIssue with operation := .assetBurn, resourceType := "ASSET", resourceId := "asset" }

def hardenedRow : AssuranceChallengeRow :=
  challengeRow sampleEnvironment hardenedIssue "key-1" (some "pqc-key-1") 1700000000000
    1700000300000

def hardenedKey (publicKey : String) : PqcKeyRecordRow where
  did := "did:sampraan:holder"
  keyIdentifier := "pqc-key-1"
  publicKey := publicKey
  publicKeyFingerprint := "5ca1ab1e5ca1ab1e"
  keySource := .registered
  status := .active
  createdAt := 1700000000000

def hardenedVerify (signature : String) : VerifyAssuranceInput :=
  { sampleVerify "signed by the holder" with pqcSignature := some signature }

def hardenedWorld (publicKey : String) : World :=
  { sampleWorld with
    assuranceChallenges := [hardenedRow]
    pqcKeyRecords := [hardenedKey publicKey] }

def consumedRow : AssuranceChallengeRow := { hardenedRow with consumedAt := some 1700000000000 }

theorem hardened_answered {publicKey signature : String} (hne : signature ≠ "")
    (hverify : PqcVerifies sampleEnvironment hardenedRow.message publicKey signature) :
    Answered sampleEnvironment (hardenedVerify signature) consumedRow
      (consumeChallengeIn "holder" "nonce" (hardenedWorld publicKey)) where
  identity := ⟨_, rfl, rfl, rfl⟩
  key := ⟨_, rfl, rfl, rfl, rfl⟩
  audience := rfl
  ecdsa := ⟨"0xA11CE", rfl, by rfl⟩
  pqc _ := ⟨.ofRecord (hardenedKey publicKey), signature, rfl, rfl, rfl, hne, hverify⟩

/-- In the sample deployment a signature of ones is one of every message. -/
theorem exists_hardenedSignature : ∃ publicKey signature, signature ≠ "" ∧
    ∀ message, PqcVerifies sampleEnvironment message publicKey signature := by
  have hkey : List.replicate mlDsa65PublicKeySize (1 : UInt8) ≠ [] := by
    rw [ne_eq, List.replicate_eq_nil_iff]
    decide
  have hsignature : List.replicate mlDsa65SignatureSize (1 : UInt8) ≠ [] := by
    rw [ne_eq, List.replicate_eq_nil_iff]
    decide
  refine ⟨_, _, encodeBase64Url_ne_empty hsignature, fun message => ⟨_, _,
    decodeBase64Url_encodeBase64Url hkey, List.length_replicate,
    decodeBase64Url_encodeBase64Url hsignature, List.length_replicate,
    congrArg some (List.all_eq_true.mpr fun byte hbyte => ?_)⟩⟩
  rw [(List.mem_replicate.mp hbyte).2]
  rfl

theorem verifyAssuranceChallenge_sound_sample :
    ∃ (c : AssuranceConfig) (input : VerifyAssuranceInput) (result : VerifyAssuranceResult),
      c.Returned 0 (.verify input) (.verified result) ∧ result.grantId? = some "challenge" ∧
        ∃ t₀ t₁ t₂ t₃ rest challenge, DualSigned sampleEnvironment input "challenge" (c.history 0)
          t₀ t₁ t₂ t₃ rest challenge := by
  obtain ⟨publicKey, signature, hne, hverify⟩ := exists_hardenedSignature
  have hw : ChallengesOk (hardenedWorld publicKey) := by
    refine ⟨?_, ?_, ?_⟩ <;> simp [hardenedWorld, Table.UniqueKey, hardenedRow, challengeRow]
  obtain ⟨result, events, hends, hid⟩ := verifyAssuranceChallenge_accepts rfl hw
    ⟨hardenedRow, List.mem_singleton_self _, rfl⟩ (List.mem_singleton_self _) rfl
    (hardened_answered hne (hverify _))
  have hinit : (assuranceSystem sampleEnvironment).Reachable (hardenedWorld publicKey)
      (Config.initial (hardenedWorld publicKey)) := .init
  obtain ⟨c, hc, hthreads, -⟩ := hinit.call_ends (i := 0)
    (k := .verify (hardenedVerify signature)) rfl (hends.bind Async.ends_pure)
  have hret : c.Returned 0 (.verify (hardenedVerify signature)) (.verified result) := by
    rw [Config.Returned, hthreads, Function.update_self]
  exact ⟨c, _, result, hret, hid, verifyAssuranceChallenge_sound hw hc hret hid⟩

end Sampraan.CryptoAssurance
