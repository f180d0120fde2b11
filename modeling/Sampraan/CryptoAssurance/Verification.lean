import Sampraan.CryptoAssurance.Calls

/-! What a verification that ends ok has checked. -/

namespace Sampraan.CryptoAssurance

open Backend Library

variable (env : Environment)

def EcdsaVerifies (message signature operatorKey did : String) : Prop :=
  ∃ recovered, env.ethers.verifyMessage message signature = some recovered ∧
    toLowerCase recovered = toLowerCase (deriveIdentityWallet env operatorKey did)

def PqcVerifies (message publicKey signature : String) : Prop :=
  ∃ pk sg, decodeBase64Url publicKey = some pk ∧ pk.length = mlDsa65PublicKeySize ∧
    decodeBase64Url signature = some sg ∧ sg.length = mlDsa65SignatureSize ∧
      env.mlDsa65.verify pk (env.mlDsa65.utf8 message) sg = some true

def activePqcKeyRecord (did : String) (w : World) : Option PqcKeyRecordRow :=
  Table.newest PqcKeyRecordRow.createdAt (fun row => row.did == did && row.status == .active)
    w.pqcKeyRecords

/-- `key` is the verification key of the DID in `w`: the newest registered one, or, under the
local development provider and only when none is registered, the derived one. -/
def CurrentPqcKey (did : String) (w : World) (key : ResolvedPqcKey) : Prop :=
  (∃ record, activePqcKeyRecord did w = some record ∧ key = .ofRecord record) ∨
    activePqcKeyRecord did w = none ∧ ∃ operatorKey keyPair,
      resolvePqcKeyProvider env = .fulfilled (.localDev operatorKey) ∧
        derivePqcKeyPair env operatorKey did = .fulfilled keyPair ∧
          key = .derived env did keyPair.1

variable {env} {W : World → World → Prop} {s : World} {h : List (World × World)}

theorem verifyMessageSignature_iff {message publicKey signature : String} :
    verifyMessageSignature env message publicKey signature = true ↔
      PqcVerifies env message publicKey signature := by
  unfold verifyMessageSignature PqcVerifies
  cases hpk : decodeBase64Url publicKey with
  | none => simp
  | some pk =>
    cases hsg : decodeBase64Url signature with
    | none => simp
    | some sg =>
      by_cases hl : pk.length = mlDsa65PublicKeySize <;>
        by_cases hl' : sg.length = mlDsa65SignatureSize <;> simp [hl, hl']

theorem getActivePqcKeyRecord_settles {did : String} {record : PqcKeyRecordRow}
    (hc : (getActivePqcKeyRecord env did).Settles W s h (.ok (some record))) :
    ∃ t, W s t ∧ h = [(t, t)] ∧ activePqcKeyRecord did t = some record := by
  rw [getActivePqcKeyRecord] at hc
  split at hc
  · simp at hc
  · obtain ⟨t, ht, rfl, ho⟩ := Async.settles_query.mp hc
    exact ⟨t, ht, rfl, (Except.ok.inj ho).symm⟩

theorem getActivePqcKeyRecord_settles_none {did : String} (hconf : env.databaseConfigured = true)
    (hc : (getActivePqcKeyRecord env did).Settles W s h (.ok none)) :
    ∃ t, W s t ∧ h = [(t, t)] ∧ activePqcKeyRecord did t = none := by
  rw [getActivePqcKeyRecord, if_neg (by simp [hconf])] at hc
  obtain ⟨t, ht, rfl, ho⟩ := Async.settles_query.mp hc
  exact ⟨t, ht, rfl, (Except.ok.inj ho).symm⟩

theorem derivePqcKeyPair_settles {operatorKey did : String} {keyPair : Bytes × Bytes}
    (hc : (derivePqcKeyPair env operatorKey did).Settles W s h (.ok keyPair)) :
    h = [] ∧ derivePqcKeyPair env operatorKey did = .fulfilled keyPair := by
  rw [derivePqcKeyPair] at hc ⊢
  split at hc
  · simp at hc
  case isFalse hkey =>
  rw [if_neg hkey]
  dsimp only at hc ⊢
  rw [keyPairFromSeed] at hc ⊢
  split at hc
  · simp at hc
  case isFalse hseed =>
  rw [if_neg hseed]
  obtain ⟨rfl, ho⟩ := Async.settles_pure.mp hc
  exact ⟨rfl, by rw [Except.ok.inj ho]; rfl⟩

theorem newLocalDevProvider_cases (operatorKey : String) :
    newLocalDevProvider operatorKey = .fulfilled (.localDev operatorKey) ∨
      ∃ e, newLocalDevProvider operatorKey = .rejected e := by
  rw [newLocalDevProvider]
  split
  · exact .inr ⟨_, rfl⟩
  · exact .inl rfl

theorem resolvePqcKeyProvider_cases :
    (∃ provider, resolvePqcKeyProvider env = .fulfilled provider) ∨
      ∃ e, resolvePqcKeyProvider env = .rejected e := by
  have hdev : ∀ key, (∃ provider, newLocalDevProvider key = .fulfilled provider) ∨
      ∃ e, newLocalDevProvider key = .rejected e := fun key =>
    (newLocalDevProvider_cases key).imp (fun h => ⟨_, h⟩) id
  have hreg : (∃ provider, (pure .registered : Promise PqcKeyProvider) = .fulfilled provider) ∨
      ∃ e, (pure .registered : Promise PqcKeyProvider) = .rejected e := .inl ⟨_, rfl⟩
  have hite : ∀ (c : Prop) [Decidable c] (p q : Promise PqcKeyProvider),
      ((∃ provider, p = .fulfilled provider) ∨ ∃ e, p = .rejected e) →
      ((∃ provider, q = .fulfilled provider) ∨ ∃ e, q = .rejected e) →
      (∃ provider, (if c then p else q) = .fulfilled provider) ∨
        ∃ e, (if c then p else q) = .rejected e := by
    intro c _ p q hp hq
    split
    · exact hp
    · exact hq
  unfold resolvePqcKeyProvider
  dsimp only
  refine hite _ _ _ ?_ ?_
  · exact hite _ _ _ hreg (hite _ _ _ (hdev _) hreg)
  · exact hite _ _ _ hreg (hite _ _ _ (hdev _) hreg)

theorem resolvePqcPublicKey_settles {did : String} {key : ResolvedPqcKey}
    (hconf : env.databaseConfigured = true)
    (hc : (resolvePqcPublicKey env did).Settles W s h (.ok (some key))) :
    ∃ t, W s t ∧ h = [(t, t)] ∧ CurrentPqcKey env did t key := by
  rw [resolvePqcPublicKey] at hc
  rcases @resolvePqcKeyProvider_cases env with ⟨provider, hp⟩ | ⟨e, hp⟩
  case inr => simp [hp] at hc
  rw [hp, Async.fulfilled_bind] at hc
  cases provider with
  | registered =>
    obtain ⟨h₁, h₂, record, rfl, hr, hk⟩ := Async.settles_bind_ok.mp hc
    obtain ⟨rfl, ho⟩ := Async.settles_pure.mp hk
    cases record with
    | none => simp at ho
    | some record =>
      obtain ⟨t, ht, rfl, hrec⟩ := getActivePqcKeyRecord_settles hr
      exact ⟨t, ht, rfl, .inl ⟨record, hrec, Option.some.inj (Except.ok.inj ho)⟩⟩
  | localDev operatorKey =>
    obtain ⟨h₁, h₂, record, rfl, hr, hk⟩ := Async.settles_bind_ok.mp hc
    cases record with
    | some record =>
      obtain ⟨rfl, ho⟩ := Async.settles_pure.mp hk
      obtain ⟨t, ht, rfl, hrec⟩ := getActivePqcKeyRecord_settles hr
      exact ⟨t, ht, rfl, .inl ⟨record, hrec, Option.some.inj (Except.ok.inj ho)⟩⟩
    | none =>
      obtain ⟨h₃, h₄, keyPair, rfl, hd, hk⟩ := Async.settles_bind_ok.mp hk
      obtain ⟨rfl, ho⟩ := Async.settles_pure.mp hk
      obtain ⟨t, ht, rfl, hrec⟩ := getActivePqcKeyRecord_settles_none hconf hr
      obtain ⟨rfl, hder⟩ := derivePqcKeyPair_settles hd
      exact ⟨t, ht, rfl, .inr ⟨hrec, operatorKey, keyPair, hp, hder,
        Option.some.inj (Except.ok.inj ho)⟩⟩

variable {input : VerifyAssuranceInput} {challenge : AssuranceChallengeRow} {id : String}
  {result : VerifyAssuranceResult}

theorem refuseChallenge_settles {e : Bool} {code reason : String}
    (hc : (refuseChallenge env input challenge e code reason).Settles W s h (.ok result)) :
    result.grantId? = none := by
  obtain ⟨h₁, h₂, _, -, -, hc⟩ := Async.settles_bind_ok.mp hc
  obtain ⟨h₃, h₄, _, -, -, hc⟩ := Async.settles_bind_ok.mp hc
  obtain ⟨-, ho⟩ := Async.settles_pure.mp hc
  rw [Except.ok.inj ho]
  rfl

theorem createAuditEvent_neverRejects (event : AuditEventRow) :
    (createAuditEvent env event).NeverRejects :=
  .ite ((Async.neverRejects_statement _).bind fun _ => Async.neverRejects_query _)
    (Async.neverRejects_pure _)

theorem acceptChallenge_settles {needsPqc : Bool} {o : Except Error VerifyAssuranceResult}
    (hc : (acceptChallenge env input challenge needsPqc).Settles W s h o) :
    ∃ result, o = .ok result ∧ result.grantId? = some challenge.id := by
  have hnr : (acceptChallenge env input challenge needsPqc).NeverRejects := by
    refine (Async.NeverRejects.ite (Async.neverRejects_pure _)
      (Async.neverRejects_statement _)).bind fun _ => ?_
    exact (createAuditEvent_neverRejects _).bind fun _ => Async.neverRejects_pure _
  obtain ⟨result, rfl⟩ := hnr.settles hc
  obtain ⟨h₁, h₂, _, -, -, hc⟩ := Async.settles_bind_ok.mp hc
  obtain ⟨h₃, h₄, _, -, -, hc⟩ := Async.settles_bind_ok.mp hc
  obtain ⟨-, ho⟩ := Async.settles_pure.mp hc
  refine ⟨result, rfl, ?_⟩
  rw [Except.ok.inj ho]
  rfl

def PqcHalf (env : Environment) (input : VerifyAssuranceInput) (challenge : AssuranceChallengeRow)
    (t : World) : Prop :=
  ∃ key signature, CurrentPqcKey env challenge.did t key ∧
    challenge.pqcKeyIdentifier = some key.keyIdentifier ∧ input.pqcSignature = some signature ∧
      PqcVerifies env challenge.message key.publicKey signature

theorem verifyPqcHalf_settles (hconf : env.databaseConfigured = true)
    (hc : (verifyPqcHalf env input challenge).Settles W s h (.ok result))
    (hid : result.grantId? = some id) :
    id = challenge.id ∧ ∃ t rest, W s t ∧ h = (t, t) :: rest ∧ PqcHalf env input challenge t := by
  obtain ⟨h₁, h₂, resolved, rfl, hr, hc⟩ := Async.settles_bind_ok.mp hc
  have hrefuse : ∀ {e code reason s h}, (refuseChallenge env input challenge e code reason).Settles
      W s h (.ok result) → False := fun hc => by simp [refuseChallenge_settles hc] at hid
  cases hfilter : resolved.filter fun key => some key.keyIdentifier == challenge.pqcKeyIdentifier with
  | none =>
    rw [hfilter] at hc
    exact (hrefuse hc).elim
  | some key =>
    obtain ⟨hkey, hkid⟩ := Option.filter_eq_some_iff.mp hfilter
    rw [hfilter] at hc
    dsimp only at hc
    split at hc
    · exact (hrefuse hc).elim
    case isFalse hempty =>
    obtain ⟨signature, hsig⟩ : ∃ signature, input.pqcSignature = some signature := by
      cases hs : input.pqcSignature with
      | none => exact absurd (by rw [hs, Option.getD_none]) hempty
      | some signature => exact ⟨signature, rfl⟩
    split at hc
    · exact (hrefuse hc).elim
    case isFalse hverify =>
    obtain ⟨t, ht, rfl, hcur⟩ := resolvePqcPublicKey_settles hconf (hkey ▸ hr)
    obtain ⟨_, ho, hgrant⟩ := acceptChallenge_settles hc
    obtain rfl := Except.ok.inj ho
    rw [hsig, Option.getD_some, Bool.not_eq_true, Bool.not_eq_false'] at hverify
    refine ⟨Option.some.inj (hid.symm.trans hgrant), t, h₂, ht, rfl, key, signature, hcur,
      (beq_iff_eq.mp hkid).symm, hsig, verifyMessageSignature_iff.mp hverify⟩

theorem verifySignatures_settles (hconf : env.databaseConfigured = true)
    (hc : (verifySignatures env input challenge).Settles W s h (.ok result))
    (hid : result.grantId? = some id) :
    id = challenge.id ∧
      EcdsaVerifies env challenge.message input.ecdsaSignature input.operatorKey challenge.did ∧
        (.mlDsa65 ∈ challenge.requiredAlgorithms →
          ∃ t rest, W s t ∧ h = (t, t) :: rest ∧ PqcHalf env input challenge t) := by
  have hrefuse : ∀ {e code reason s h}, (refuseChallenge env input challenge e code reason).Settles
      W s h (.ok result) → False := fun hc => by simp [refuseChallenge_settles hc] at hid
  rw [verifySignatures] at hc
  cases hrec : env.ethers.verifyMessage challenge.message input.ecdsaSignature with
  | none =>
    rw [hrec] at hc
    exact (hrefuse hc).elim
  | some recovered =>
    rw [hrec] at hc
    dsimp only at hc
    split at hc
    · exact (hrefuse hc).elim
    case isFalse hwallet =>
    have hecdsa : EcdsaVerifies env challenge.message input.ecdsaSignature input.operatorKey
        challenge.did := ⟨recovered, hrec, not_not.mp hwallet⟩
    split at hc
    case isTrue hmem =>
      obtain ⟨hcid, hpqc⟩ := verifyPqcHalf_settles hconf hc hid
      exact ⟨hcid, hecdsa, fun _ => hpqc⟩
    case isFalse hmem =>
      obtain ⟨_, ho, hgrant⟩ := acceptChallenge_settles hc
      obtain rfl := Except.ok.inj ho
      exact ⟨Option.some.inj (hid.symm.trans hgrant), hecdsa, fun h => absurd h hmem⟩

def IdentityUsable (identityId : String) (t : World) : Prop :=
  ∃ identity, t.identities.find? (·.id == identityId) = some identity ∧
    identity.status = .active ∧ identity.lifecycleState = .verified

def KeyUsable (env : Environment) (challenge : AssuranceChallengeRow) (t : World) : Prop :=
  ∃ didRow, t.didRecords.find? (·.did == challenge.did) = some didRow ∧
    didRow.status = .active ∧ didRow.keyStatus = .active ∧
      didRow.keyIdentifier.getD (keyIdentifierFor env challenge.did 1) =
        challenge.ecdsaKeyIdentifier

theorem verifyConsumedChallenge_settles (hconf : env.databaseConfigured = true)
    (hc : (verifyConsumedChallenge env input challenge).Settles W s h (.ok result))
    (hid : result.grantId? = some id) :
    id = challenge.id ∧ ∃ t₂ t₃ rest, W s t₂ ∧ W t₂ t₃ ∧ h = (t₂, t₂) :: (t₃, t₃) :: rest ∧
      IdentityUsable input.identityId t₂ ∧ KeyUsable env challenge t₃ ∧
        EcdsaVerifies env challenge.message input.ecdsaSignature input.operatorKey challenge.did ∧
          (.mlDsa65 ∈ challenge.requiredAlgorithms →
            ∃ t₄ rest', W t₃ t₄ ∧ rest = (t₄, t₄) :: rest' ∧ PqcHalf env input challenge t₄) := by
  have hfail : ∀ {code reason h s}, ¬ (pure (.failed code reason) : Promise VerifyAssuranceResult).Settles
      W s h (.ok result) := by
    intro code reason h s hc
    rw [Except.ok.inj (Async.settles_pure.mp hc).2] at hid
    cases hid
  rw [verifyConsumedChallenge, selectIdentityById, Async.settles_query_bind] at hc
  obtain ⟨t₂, h₂, ht₂, rfl, hc⟩ := hc
  cases hidentity : t₂.identities.find? (·.id == input.identityId) with
  | none =>
    rw [hidentity] at hc
    exact absurd hc hfail
  | some identity =>
    rw [hidentity] at hc
    dsimp only at hc
    split at hc
    · exact absurd hc hfail
    case isFalse hactive =>
    obtain ⟨hstatus, hstate⟩ := not_or.mp hactive
    rw [selectDidRecord, Async.settles_query_bind] at hc
    obtain ⟨t₃, h₃, ht₃, rfl, hc⟩ := hc
    cases hdid : t₃.didRecords.find? (·.did == challenge.did) with
    | none =>
      rw [hdid] at hc
      exact absurd hc hfail
    | some didRow =>
      rw [hdid] at hc
      dsimp only at hc
      split at hc
      · exact absurd hc hfail
      case isFalse hkey =>
      obtain ⟨hdstatus, hkstatus⟩ := not_or.mp hkey
      split at hc
      · exact absurd hc hfail
      split at hc
      · exact absurd hc hfail
      case isFalse hcurrent =>
      obtain ⟨hcid, hecdsa, hpqc⟩ := verifySignatures_settles hconf hc hid
      exact ⟨hcid, t₂, t₃, h₃, ht₂, ht₃, rfl,
        ⟨identity, hidentity, not_not.mp hstatus, not_not.mp hstate⟩,
        ⟨didRow, hdid, not_not.mp hdstatus, not_not.mp hkstatus, (not_not.mp hcurrent).symm⟩,
        hecdsa, hpqc⟩

end Sampraan.CryptoAssurance
