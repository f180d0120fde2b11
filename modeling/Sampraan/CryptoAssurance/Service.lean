import Sampraan.CryptoAssurance.MlDsa
import Sampraan.CryptoAssurance.Policy

/-! `assurance.service.ts` with the functions of `db.ts` that it calls. -/

namespace Sampraan.CryptoAssurance

open Backend Library

def assuranceChallengeTtlMs : ℤ := 5 * 60 * 1000

def assuranceGrantValidityMs : ℤ := 5 * 60 * 1000

def assuranceFormatVersion : ℕ := 1

variable (env : Environment)

def assuranceAudience : String := orDefault env.process.viteAppId "sampraan"

structure AssuranceMessageFields where
  identityId : String
  did : String
  level : AssuranceLevel
  algorithms : List SignatureAlgorithm
  operation : AssuranceOperation
  resourceType : String
  resourceId : String
  audience : String
  ecdsaKeyIdentifier : String
  pqcKeyIdentifier : Option String
  nonce : String
  issuedAt : String
  expiresAt : String
  reasonCodes : List AssuranceReasonCode

def buildAssuranceMessage (fields : AssuranceMessageFields) : String :=
  "\n".intercalate
    ["SAMPRAAN Crypto Assurance",
      s!"version: {assuranceFormatVersion}",
      s!"identity: {fields.identityId}",
      s!"did: {fields.did}",
      s!"level: {fields.level.label}",
      "algorithms: " ++ "+".intercalate (fields.algorithms.map SignatureAlgorithm.label),
      s!"operation: {fields.operation.label}",
      s!"resource-type: {fields.resourceType}",
      s!"resource-id: {fields.resourceId}",
      s!"audience: {fields.audience}",
      s!"ecdsa-key: {fields.ecdsaKeyIdentifier}",
      "pqc-key: " ++ fields.pqcKeyIdentifier.getD "none",
      s!"nonce: {fields.nonce}",
      s!"issued-at: {fields.issuedAt}",
      s!"expires: {fields.expiresAt}",
      "policy-reasons: " ++ ",".intercalate (fields.reasonCodes.map AssuranceReasonCode.label),
      "This payload authorizes exactly one operation on exactly one resource, once."]

abbrev AssuranceDecision := AssurancePolicyResult

def decideAssurance (input : AssurancePolicyInput) : AssuranceDecision := evaluateAssurance input

/-! ### Statements on `assurance_challenges` -/

def updateChallenges (p : AssuranceChallengeRow → Bool)
    (f : AssuranceChallengeRow → AssuranceChallengeRow) (w : World) : World :=
  { w with assuranceChallenges := Table.update p f w.assuranceChallenges }

def insertChallenge (row : AssuranceChallengeRow) (w : World) : Option World :=
  if w.assuranceChallenges.all fun r => r.id != row.id && r.nonce != row.nonce then
    some { w with assuranceChallenges := w.assuranceChallenges ++ [row] }
  else none

def createAssuranceChallenge (row : AssuranceChallengeRow) :
    Promise (Option AssuranceChallengeRow) :=
  if !env.databaseConfigured then pure none
  else do
    insert (insertChallenge row)
    Async.query fun w => w.assuranceChallenges.find? (·.id == row.id)

def consumableChallenge (identityId nonce : String) (now : Time) (row : AssuranceChallengeRow) :
    Bool :=
  row.nonce == nonce && row.identityId == identityId && row.consumedAt.isNone &&
    decide (now < row.expiresAt)

def consumeChallengeIn (identityId nonce : String) (w : World) : World :=
  updateChallenges (consumableChallenge identityId nonce w.now)
    (fun row => { row with consumedAt := some w.now }) w

def consumeAssuranceChallengeAtomic (identityId nonce : String) :
    Promise (Option AssuranceChallengeRow) :=
  if !env.databaseConfigured then pure none
  else do
    let affectedRows ← Async.statement fun w =>
      (Table.affectedRows (consumableChallenge identityId nonce w.now) w.assuranceChallenges,
        consumeChallengeIn identityId nonce w)
    if affectedRows = 0 then pure none
    else Async.query fun w => w.assuranceChallenges.find? (·.nonce == nonce)

def markChallengeIn (challengeId : String) (ecdsaVerified pqcVerified : Bool) (w : World) : World :=
  updateChallenges (fun row => row.id == challengeId)
    (fun row => { row with ecdsaVerified := ecdsaVerified, pqcVerified := pqcVerified }) w

def markAssuranceHalfVerified (challengeId : String) (ecdsaVerified pqcVerified : Bool) :
    Promise Unit :=
  if !env.databaseConfigured then pure ()
  else Async.statement fun w => ((), markChallengeIn challengeId ecdsaVerified pqcVerified w)

structure ClaimAssuranceInput where
  identityId : String
  grantId : Option String
  operation : AssuranceOperation
  resourceType : String
  resourceId : String
  deriving DecidableEq

def validGrant (input : ClaimAssuranceInput) (grantId : String) (notOlderThan : Time)
    (row : AssuranceChallengeRow) : Bool :=
  row.id == grantId && row.identityId == input.identityId && row.operation == input.operation &&
    row.resourceType == input.resourceType && row.resourceId == input.resourceId &&
    row.consumedAt.any fun consumedAt => decide (notOlderThan < consumedAt)

def findValidAssuranceGrant (input : ClaimAssuranceInput) (grantId : String) :
    Promise (Option AssuranceChallengeRow) :=
  if !env.databaseConfigured then pure none
  else Async.query fun w =>
    w.assuranceChallenges.find? (validGrant input grantId (w.now - assuranceGrantValidityMs))

def claimable (grantId : String) (row : AssuranceChallengeRow) : Bool :=
  row.id == grantId && row.executedAt.isNone

def executeChallengeIn (grantId : String) (w : World) : World :=
  updateChallenges (claimable grantId) (fun row => { row with executedAt := some w.now }) w

def claimAssuranceGrantExecution (grantId : String) : Promise Bool :=
  if !env.databaseConfigured then pure false
  else Async.statement fun w =>
    (decide (0 < Table.affectedRows (claimable grantId) w.assuranceChallenges),
      executeChallengeIn grantId w)

/-! ### Issue -/

inductive ActorCrypto where
  | resolved (ecdsaKeyIdentifier : String)
  | failed (code reason : String)

def resolveActorCrypto (did : String) : Promise ActorCrypto :=
  if !env.databaseConfigured then pure (.failed "DATABASE_UNAVAILABLE" "Database unavailable")
  else do
    match ← selectDidRecord did with
    | none => pure (.failed "DID_NOT_FOUND" "No DID record for this identity")
    | some record =>
      if record.status ≠ .active then pure (.failed "DID_REVOKED" "DID is not ACTIVE")
      else if record.keyStatus ≠ .active then
        pure (.failed "KEY_NOT_ACTIVE"
          s!"DID key is {record.keyStatus.label} — assurance cannot be issued")
      else pure (.resolved (record.keyIdentifier.getD (keyIdentifierFor env did 1)))

/-- `challengeId` and `nonce` are the random values of the call. -/
structure IssueAssuranceInput where
  identityId : String
  did : String
  identityStatus : IdentityStatus
  lifecycleState : LifecycleState
  role : String
  operation : AssuranceOperation
  resourceType : String
  resourceId : String
  policyInput : PolicyContext
  challengeId : String
  nonce : String
  deriving DecidableEq

structure IssuedAssuranceChallenge where
  challengeId : String
  level : AssuranceLevel
  algorithms : List SignatureAlgorithm
  message : String
  nonce : String
  audience : String
  ecdsaKeyIdentifier : String
  pqcKeyIdentifier : Option String
  issuedAt : String
  expiresAt : String
  reasonCodes : List AssuranceReasonCode
  explanation : String
  deriving DecidableEq

inductive IssueAssuranceResult where
  | notRequired (decision : AssuranceDecision)
  | issued (decision : AssuranceDecision) (challenge : IssuedAssuranceChallenge)
  | failed (code reason : String)
  deriving DecidableEq

def auditAssurance (actorIdentityId action : String) (decision : AuditDecision)
    (resourceType resourceId reason : String) : Promise Unit :=
  createAuditEvent env
    { actorIdentityId := some actorIdentityId
      action := action
      resourceType := resourceType
      resourceId := resourceId
      decision := decision
      reason := reason }

def IssueAssuranceInput.decision (input : IssueAssuranceInput) : AssuranceDecision :=
  decideAssurance
    { toPolicyContext := input.policyInput
      operation := input.operation
      role := input.role }

def challengeRow (input : IssueAssuranceInput) (ecdsaKeyIdentifier : String)
    (pqcKeyIdentifier : Option String) (issuedAt expiresAt : Time) : AssuranceChallengeRow :=
  let decision := input.decision
  { id := input.challengeId
    identityId := input.identityId
    did := input.did
    operation := input.operation
    resourceType := input.resourceType
    resourceId := input.resourceId
    assuranceLevel := decision.level
    requiredAlgorithms := algorithmByLevel decision.level
    reasonCodes := decision.reasonCodes
    audience := assuranceAudience env
    ecdsaKeyIdentifier := ecdsaKeyIdentifier
    pqcKeyIdentifier := pqcKeyIdentifier
    nonce := input.nonce
    message := buildAssuranceMessage
      { identityId := input.identityId
        did := input.did
        level := decision.level
        algorithms := algorithmByLevel decision.level
        operation := input.operation
        resourceType := input.resourceType
        resourceId := input.resourceId
        audience := assuranceAudience env
        ecdsaKeyIdentifier := ecdsaKeyIdentifier
        pqcKeyIdentifier := pqcKeyIdentifier
        nonce := input.nonce
        issuedAt := toISOString issuedAt
        expiresAt := toISOString expiresAt
        reasonCodes := decision.reasonCodes }
    ecdsaVerified := false
    pqcVerified := false
    expiresAt := expiresAt
    consumedAt := none
    executedAt := none }

def persistChallenge (input : IssueAssuranceInput) (ecdsaKeyIdentifier : String)
    (pqcKeyIdentifier : Option String) : Promise IssueAssuranceResult := do
  let decision := input.decision
  let issuedAt ← Async.query World.now
  let expiresAt := (← Async.query World.now) + assuranceChallengeTtlMs
  let row := challengeRow env input ecdsaKeyIdentifier pqcKeyIdentifier issuedAt expiresAt
  match ← createAssuranceChallenge env row with
  | none => pure (.failed "DATABASE_UNAVAILABLE" "Could not persist the assurance challenge")
  | some stored => do
    auditAssurance env input.identityId "ASSURANCE_CHALLENGE_ISSUED" .allow input.resourceType
      input.resourceId s!"Assurance {decision.level.label} challenge issued (score {decision.score})"
    pure (.issued decision
      { challengeId := stored.id
        level := decision.level
        algorithms := row.requiredAlgorithms
        message := row.message
        nonce := row.nonce
        audience := row.audience
        ecdsaKeyIdentifier := ecdsaKeyIdentifier
        pqcKeyIdentifier := pqcKeyIdentifier
        issuedAt := toISOString issuedAt
        expiresAt := toISOString expiresAt
        reasonCodes := decision.reasonCodes
        explanation := decision.explanation })

def issueAssuranceChallenge (input : IssueAssuranceInput) : Promise IssueAssuranceResult :=
  let decision := input.decision
  if decision.level = .baseline then pure (.notRequired decision)
  else if input.identityStatus ≠ .active ∨ input.lifecycleState ≠ .verified then
    pure (.failed "IDENTITY_NOT_ACTIVE"
      (s!"Identity is {input.lifecycleState.label}/{input.identityStatus.label} — " ++
        "assurance cannot be issued"))
  else do
    match ← resolveActorCrypto env input.did with
    | .failed code reason => pure (.failed code reason)
    | .resolved ecdsaKeyIdentifier =>
      if decision.requiresDualSignature then do
        match ← resolvePqcPublicKey env input.did with
        | none => do
          auditAssurance env input.identityId "ASSURANCE_CHALLENGE_REFUSED" .deny
            input.resourceType input.resourceId
            ("Policy requires a post-quantum signature but no ACTIVE ML-DSA-65 key is " ++
              "registered for this DID")
          pure (.failed "PQC_KEY_UNAVAILABLE"
            ("This operation requires a post-quantum signature. Register an ML-DSA-65 key for " ++
              "this DID before proceeding."))
        | some resolved =>
          persistChallenge env input ecdsaKeyIdentifier (some resolved.keyIdentifier)
      else persistChallenge env input ecdsaKeyIdentifier none

/-! ### Verify -/

structure VerifyAssuranceInput where
  identityId : String
  nonce : String
  ecdsaSignature : String
  pqcSignature : Option String
  operatorKey : String
  deriving DecidableEq

inductive VerifyAssuranceResult where
  | ok (grantId : String) (level : AssuranceLevel) (operation : AssuranceOperation)
    (resourceType resourceId : String) (algorithmVerified : List SignatureAlgorithm)
  | failed (code reason : String)
  deriving DecidableEq

def VerifyAssuranceResult.grantId? : VerifyAssuranceResult → Option String
  | .ok grantId _ _ _ _ _ => some grantId
  | .failed _ _ => none

/-- `markAssuranceHalfVerified` followed by `failAndAudit`. -/
def refuseChallenge (input : VerifyAssuranceInput) (challenge : AssuranceChallengeRow)
    (ecdsaVerified : Bool) (code reason : String) : Promise VerifyAssuranceResult := do
  markAssuranceHalfVerified env challenge.id ecdsaVerified false
  auditAssurance env input.identityId "ASSURANCE_FAILED" .deny challenge.resourceType
    challenge.resourceId reason
  pure (.failed code reason)

def acceptChallenge (input : VerifyAssuranceInput) (challenge : AssuranceChallengeRow)
    (needsPqc : Bool) : Promise VerifyAssuranceResult := do
  markAssuranceHalfVerified env challenge.id true needsPqc
  let algorithmVerified : List SignatureAlgorithm :=
    if needsPqc then [.ecdsaSecp256k1, .mlDsa65] else [.ecdsaSecp256k1]
  auditAssurance env input.identityId "ASSURANCE_VERIFIED" .allow challenge.resourceType
    challenge.resourceId
    (s!"Assurance {challenge.assuranceLevel.label} verified (" ++
      " + ".intercalate (algorithmVerified.map SignatureAlgorithm.label) ++ ")")
  pure (.ok challenge.id challenge.assuranceLevel challenge.operation challenge.resourceType
    challenge.resourceId algorithmVerified)

/-- A missing signature is a failure, not a downgrade. -/
def verifyPqcHalf (input : VerifyAssuranceInput) (challenge : AssuranceChallengeRow) :
    Promise VerifyAssuranceResult := do
  let resolved ← resolvePqcPublicKey env challenge.did
  match resolved.filter fun key => some key.keyIdentifier == challenge.pqcKeyIdentifier with
  | none =>
    refuseChallenge env input challenge true "PQC_KEY_UNAVAILABLE"
      "The ML-DSA-65 key bound to this challenge is no longer ACTIVE"
  | some key =>
    let pqcSignature := input.pqcSignature.getD ""
    if pqcSignature = "" then
      refuseChallenge env input challenge true "PQC_SIGNATURE_MISSING"
        "This operation requires an ML-DSA-65 signature in addition to ECDSA"
    else if !verifyMessageSignature env challenge.message key.publicKey pqcSignature then
      refuseChallenge env input challenge true "PQC_SIGNATURE_INVALID"
        "ML-DSA-65 signature does not verify against the registered public key"
    else acceptChallenge env input challenge true

def verifySignatures (input : VerifyAssuranceInput) (challenge : AssuranceChallengeRow) :
    Promise VerifyAssuranceResult :=
  match env.ethers.verifyMessage challenge.message input.ecdsaSignature with
  | none =>
    refuseChallenge env input challenge false "SIGNATURE_INVALID" "ECDSA signature is malformed"
  | some recovered =>
    if toLowerCase recovered ≠
        toLowerCase (deriveIdentityWallet env input.operatorKey challenge.did) then
      refuseChallenge env input challenge false "SIGNATURE_MISMATCH"
        "ECDSA signature does not verify against this DID's key"
    else if .mlDsa65 ∈ challenge.requiredAlgorithms then verifyPqcHalf env input challenge
    else acceptChallenge env input challenge false

def verifyConsumedChallenge (input : VerifyAssuranceInput) (challenge : AssuranceChallengeRow) :
    Promise VerifyAssuranceResult := do
  match ← selectIdentityById input.identityId with
  | none => pure (.failed "IDENTITY_NOT_FOUND" "Identity not found")
  | some identity =>
    if identity.status ≠ .active ∨ identity.lifecycleState ≠ .verified then
      pure (.failed "IDENTITY_NOT_ACTIVE"
        s!"Identity is {identity.lifecycleState.label}/{identity.status.label}")
    else
      match ← selectDidRecord challenge.did with
      | none => pure (.failed "DID_NOT_FOUND" "No DID record for this identity")
      | some didRow =>
        if didRow.status ≠ .active ∨ didRow.keyStatus ≠ .active then
          pure (.failed "KEY_NOT_ACTIVE"
            "DID key was revoked or rotated after the challenge was issued")
        else if challenge.audience ≠ assuranceAudience env then
          pure (.failed "AUDIENCE_MISMATCH" "Challenge audience does not match this deployment")
        else if challenge.ecdsaKeyIdentifier ≠
            didRow.keyIdentifier.getD (keyIdentifierFor env challenge.did 1) then
          pure (.failed "KEY_SUPERSEDED" "Challenge was issued for a superseded key generation")
        else verifySignatures env input challenge

def challengeInvalid : String :=
  "Challenge is invalid, expired, already used, or bound to a different identity"

def answerChallenge (input : VerifyAssuranceInput) :
    Option AssuranceChallengeRow → Promise VerifyAssuranceResult
  | none => do
    auditAssurance env input.identityId "ASSURANCE_FAILED" .deny "ASSURANCE"
      (sliceTo 16 input.nonce) challengeInvalid
    pure (.failed "CHALLENGE_INVALID" challengeInvalid)
  | some challenge => verifyConsumedChallenge env input challenge

def verifyAssuranceChallenge (input : VerifyAssuranceInput) : Promise VerifyAssuranceResult :=
  if !env.databaseConfigured then pure (.failed "DATABASE_UNAVAILABLE" "Database unavailable")
  else do
    let challenge ← consumeAssuranceChallengeAtomic env input.identityId input.nonce
    answerChallenge env input challenge

/-! ### Claim -/

inductive ClaimAssuranceResult where
  | ok (level : AssuranceLevel)
  | failed (reason : String)
  deriving DecidableEq

/-- Claims the grant in the same call that finds it, so the operation runs once per grant. -/
def claimAssuranceGrant (input : ClaimAssuranceInput) : Promise ClaimAssuranceResult :=
  let grantId := input.grantId.getD ""
  if grantId = "" then
    pure (.failed ("This operation requires a crypto assurance grant (dual-signature " ++
      "verification) — request a challenge first."))
  else do
    match ← findValidAssuranceGrant env input grantId with
    | none =>
      pure (.failed ("The assurance grant is invalid, expired, already used, or bound to a " ++
        "different actor/operation/resource."))
    | some grant =>
      if ← claimAssuranceGrantExecution env grant.id then pure (.ok grant.assuranceLevel)
      else
        pure (.failed ("The assurance grant has already been consumed by another operation " ++
          "(single-use)."))

end Sampraan.CryptoAssurance
