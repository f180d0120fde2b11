import Sampraan.Did.StepUp

/-! The challenges of `did-auth.service.ts`: issued, consumed and checked against the DID's key. -/

namespace Sampraan.Did

open Backend Library

variable (env : Environment)

structure DidAuthFailure where
  reason : String
  code : String
  deriving DecidableEq

/-- The record of the DID, left-joined with the identity it belongs to. -/
def selectDidWithIdentity (did : String) : Promise (Option (DidRecordRow × Option IdentityRow)) :=
  Async.query fun w =>
    (w.didRecords.find? (·.did == did)).map fun record =>
      (record, w.identities.find? (·.id == record.identityId))

/-- Why the DID cannot be used now. -/
def didFailure : Option (DidRecordRow × Option IdentityRow) → Option DidAuthFailure
  | none => some { reason := "DID is not registered", code := "DID_NOT_FOUND" }
  | some (record, identity) =>
    if record.status = .revoked ∨ record.keyStatus = .revoked then
      some { reason := "DID key is revoked", code := "KEY_REVOKED" }
    else if record.keyStatus = .rotated then
      some
        { reason := "DID key has been rotated — the current key must be used"
          code := "KEY_ROTATED" }
    else
      match identity with
      | none => some { reason := "Identity is unknown", code := "IDENTITY_NOT_ACTIVE" }
      | some identity =>
        if identity.status ≠ .active then
          some
            { reason := s!"Identity is {toLowerCase identity.status.label}"
              code := "IDENTITY_NOT_ACTIVE" }
        else none

def assertDidUsable (did : String) : Promise (Option DidAuthFailure) :=
  if !env.databaseConfigured then
    pure (some { reason := "Database unavailable", code := "DATABASE_UNAVAILABLE" })
  else do
    return didFailure (← selectDidWithIdentity did)

def buildChallengeMessage (did keyIdentifier : String) (purpose : DidPurpose)
    (audience nonce issuedAt expiresAt : String) : String :=
  "\n".intercalate
    ["SAMPRAAN DID Authentication",
      s!"version: {challengeFormatVersion}",
      s!"did: {did}",
      s!"keyId: {keyIdentifier}",
      s!"purpose: {purpose.label}",
      s!"audience: {audience}",
      s!"nonce: {nonce}",
      s!"issued-at: {issuedAt}",
      s!"expires: {expiresAt}",
      "Signing this message proves control of this DID key for the stated purpose only.",
      "It grants no asset, fund, or session access beyond the server's policy evaluation."]

structure DidChallenge where
  challengeId : String
  did : String
  purpose : DidPurpose
  audience : String
  keyIdentifier : String
  message : String
  nonce : String
  issuedAt : String
  expiresAt : String
  deriving DecidableEq

/-- `id` and `nonce` are the random values of this call. -/
structure CreateDidChallengeInput where
  did : String
  purpose : DidPurpose := .authentication
  id : String
  nonce : String
  deriving DecidableEq

def insertDidChallenge (row : DidChallengeRow) : Promise Unit :=
  insert fun w =>
    if w.didChallenges.all fun r => r.id != row.id && r.nonce != row.nonce then
      some { w with didChallenges := w.didChallenges ++ [row] }
    else none

/-- The row for a challenge, which holds what the client is given. -/
def DidChallenge.row (challenge : DidChallenge) (expiresAt : Time) : DidChallengeRow where
  id := challenge.challengeId
  did := challenge.did
  purpose := challenge.purpose
  audience := challenge.audience
  keyIdentifier := some challenge.keyIdentifier
  nonce := challenge.nonce
  message := challenge.message
  expiresAt := expiresAt
  consumedAt := none

/-- The challenge that is issued for a key. -/
def challengeFor (input : CreateDidChallengeInput) (keyIdentifier : String)
    (issuedAt expiresAt : Time) : DidChallenge where
  challengeId := input.id
  did := input.did
  purpose := input.purpose
  audience := challengeAudience env
  keyIdentifier := keyIdentifier
  message := buildChallengeMessage input.did keyIdentifier input.purpose (challengeAudience env)
    input.nonce (toISOString issuedAt) (toISOString expiresAt)
  nonce := input.nonce
  issuedAt := toISOString issuedAt
  expiresAt := toISOString expiresAt

def createDidChallenge (input : CreateDidChallengeInput) :
    Promise (Except DidAuthFailure DidChallenge) := do
  match ← assertDidUsable env input.did with
  | some failure => pure (.error failure)
  | none =>
    match ← selectDidRecord input.did with
    | none => pure (.error { reason := "DID is not registered", code := "DID_NOT_FOUND" })
    | some record => do
      let keyIdentifier := currentKeyIdentifier env record
      let issuedAt ← Async.query World.now
      let expiresAt := (← Async.query World.now) + challengeTtlMs
      let challenge := challengeFor env input keyIdentifier issuedAt expiresAt
      insertDidChallenge (challenge.row expiresAt)
      pure (.ok challenge)

structure DidVerificationInput where
  did : String
  nonce : String
  signature : String
  purpose : DidPurpose := .authentication
  operatorKey : String
  deriving DecidableEq

structure DidVerificationSuccess where
  identityId : String
  did : String
  keyIdentifier : String
  linkedUserId : Option ℕ
  recoveredAddress : String
  deriving DecidableEq

def answerable (input : DidVerificationInput) (now : Time) (row : DidChallengeRow) : Bool :=
  row.nonce == input.nonce && row.did == input.did && row.purpose == input.purpose &&
    row.consumedAt.isNone && decide (now < row.expiresAt)

def consumeChallengeIn (input : DidVerificationInput) (w : World) : World :=
  let rows := Table.update (answerable input w.now)
    (fun row => { row with consumedAt := some w.now }) w.didChallenges
  { w with didChallenges := rows }

def consumeDidChallenge (input : DidVerificationInput) : Promise ℕ :=
  Async.statement fun w =>
    (Table.affectedRows (answerable input w.now) w.didChallenges, consumeChallengeIn input w)

/-- The challenge names a key that is not the current one; an empty name counts as none. -/
def superseded (challenge : DidChallengeRow) (currentKeyId : String) : Bool :=
  challenge.keyIdentifier.any fun keyIdentifier =>
    keyIdentifier != "" && keyIdentifier != currentKeyId

/-- The address that signed the challenge, when it is the DID's wallet. -/
def recoverSigner (input : DidVerificationInput) (challenge : DidChallengeRow) :
    Except DidAuthFailure String :=
  match env.ethers.verifyMessage challenge.message input.signature with
  | none => .error { reason := "Signature is malformed", code := "SIGNATURE_INVALID" }
  | some recovered =>
    if toLowerCase recovered ≠ toLowerCase (deriveIdentityWallet env input.operatorKey input.did) then
      .error
        { reason := "Signature does not verify against this DID's key"
          code := "SIGNATURE_MISMATCH" }
    else .ok recovered

def verifyConsumedChallenge (input : DidVerificationInput) :
    Promise (Except DidAuthFailure DidVerificationSuccess) := do
  match ← assertDidUsable env input.did with
  | some failure => pure (.error { failure with code := "CHALLENGE_" ++ failure.code })
  | none =>
    match ← Async.query fun w => w.didChallenges.find? (·.nonce == input.nonce) with
    | none =>
      pure (.error { reason := "Challenge record disappeared", code := "CHALLENGE_INVALID" })
    | some challenge =>
      if challenge.audience ≠ challengeAudience env then
        pure (.error
          { reason := "Challenge audience does not match this deployment"
            code := "AUDIENCE_MISMATCH" })
      else
        match ← selectDidRecord input.did with
        | none => pure (.error { reason := "DID not found", code := "DID_NOT_FOUND" })
        | some record =>
          let currentKeyId := currentKeyIdentifier env record
          if superseded challenge currentKeyId then
            pure (.error
              { reason := "Challenge was issued for a superseded key — " ++
                  "re-authenticate with the current key"
                code := "KEY_SUPERSEDED" })
          else
            match recoverSigner env input challenge with
            | .error failure => pure (.error failure)
            | .ok recovered =>
              match ← Async.query fun w => w.identities.find? (·.did == input.did) with
              | none =>
                pure (.error { reason := "Identity not found for DID", code := "IDENTITY_NOT_FOUND" })
              | some identity =>
                pure (.ok
                  { identityId := identity.id
                    did := input.did
                    keyIdentifier := currentKeyId
                    linkedUserId := identity.linkedUserId
                    recoveredAddress := recovered })

def verifyDidChallenge (input : DidVerificationInput) :
    Promise (Except DidAuthFailure DidVerificationSuccess) :=
  if !env.databaseConfigured then
    pure (.error { reason := "Database unavailable", code := "DATABASE_UNAVAILABLE" })
  else do
    let affectedRows ← consumeDidChallenge input
    if affectedRows = 0 then
      pure (.error
        { reason := "Challenge is invalid, expired, already used, or bound to a different DID/purpose"
          code := "CHALLENGE_INVALID" })
    else verifyConsumedChallenge env input

end Sampraan.Did
