import Sampraan.Backend.Environment
import Sampraan.Library.Table

/-! The step-up part of `did-auth.service.ts`: purpose-bound re-authentication. -/

namespace Sampraan.Did

open Backend Library

def challengeTtlMs : ℤ := 5 * 60 * 1000

def stepUpValidityMs : ℤ := 10 * 60 * 1000

def challengeFormatVersion : ℕ := 2

variable (env : Environment)

def currentKeyIdentifier (record : DidRecordRow) : String :=
  record.keyIdentifier.getD (keyIdentifierFor env record.did 1)

def buildStepUpMessage (identityId purpose nonce keyIdentifier audience : String) : String :=
  "\n".intercalate
    ["SAMPRAAN Step-Up Verification",
      s!"version: {challengeFormatVersion}",
      s!"identity: {identityId}",
      s!"keyId: {keyIdentifier}",
      s!"purpose: {purpose}",
      s!"audience: {audience}",
      s!"nonce: {nonce}",
      "Signing this message is a re-authentication proof for the bound purpose only."]

structure StepUpChallenge where
  nonce : String
  message : String
  keyIdentifier : String
  expiresAt : String
  deriving DecidableEq

inductive CreateStepUpResult where
  | issued (challenge : StepUpChallenge)
  | refused (reason : String)
  deriving DecidableEq

/-- `id` and `nonce` are the random values of this call. -/
structure CreateStepUpInput where
  identityId : String
  purpose : String
  id : String
  nonce : String

def insertStepUpSession (row : StepUpSessionRow) : Promise Unit :=
  insert fun w =>
    if w.stepUpSessions.all fun r => r.id != row.id && r.nonce != row.nonce then
      some { w with stepUpSessions := w.stepUpSessions ++ [row] }
    else none

def createStepUpChallenge (input : CreateStepUpInput) : Promise CreateStepUpResult :=
  if !env.databaseConfigured then pure (.refused "Database unavailable")
  else do
    match ← selectIdentityById input.identityId with
    | none => pure (.refused "Identity not found")
    | some identity =>
      match ← selectDidRecord identity.did with
      | none => pure (.refused "No DID record for this identity")
      | some record =>
        if record.status = .revoked ∨ record.keyStatus ≠ .active then
          pure (.refused
            s!"DID key is {toLowerCase record.keyStatus.label} — step-up unavailable")
        else do
          let keyIdentifier := currentKeyIdentifier env record
          let expiresAt := (← Async.query World.now) + challengeTtlMs
          insertStepUpSession
            { id := input.id
              identityId := input.identityId
              purpose := input.purpose
              nonce := input.nonce
              expiresAt := expiresAt
              consumedAt := none }
          pure (.issued
            { nonce := input.nonce
              message := buildStepUpMessage input.identityId input.purpose input.nonce
                keyIdentifier (challengeAudience env)
              keyIdentifier := keyIdentifier
              expiresAt := toISOString expiresAt })

structure VerifyStepUpInput where
  identityId : String
  purpose : String
  nonce : String
  signature : String
  operatorKey : String
  deriving DecidableEq

inductive VerifyStepUpResult where
  | ok
  | failed (reason code : String)
  deriving DecidableEq

def consumable (input : VerifyStepUpInput) (now : Time) (row : StepUpSessionRow) : Bool :=
  row.nonce == input.nonce && row.identityId == input.identityId && row.purpose == input.purpose &&
    row.consumedAt.isNone && decide (now < row.expiresAt)

def consumeIn (input : VerifyStepUpInput) (w : World) : World :=
  let rows := Table.update (consumable input w.now)
    (fun row => { row with consumedAt := some w.now }) w.stepUpSessions
  { w with stepUpSessions := rows }

def consumeStepUpSession (input : VerifyStepUpInput) : Promise ℕ :=
  Async.statement fun w =>
    (Table.affectedRows (consumable input w.now) w.stepUpSessions, consumeIn input w)

/-- The signature part of `verifyStepUpChallenge`. Reading a field of a missing session throws
inside the `try`, like a malformed signature. -/
def checkStepUpSignature (input : VerifyStepUpInput) (session : Option StepUpSessionRow)
    (identity : IdentityRow) (record : DidRecordRow) : VerifyStepUpResult :=
  let recovered := session.bind fun session =>
    env.ethers.verifyMessage
      (buildStepUpMessage session.identityId session.purpose session.nonce
        (currentKeyIdentifier env record) (challengeAudience env)) input.signature
  match recovered with
  | none => .failed "Step-up signature is malformed" "SIGNATURE_INVALID"
  | some recovered =>
    if toLowerCase recovered ≠
        toLowerCase (deriveIdentityWallet env input.operatorKey identity.did) then
      .failed "Step-up signature does not verify against this identity's key" "SIGNATURE_MISMATCH"
    else .ok

def verifyConsumedStepUp (input : VerifyStepUpInput) : Promise VerifyStepUpResult := do
  let session ← Async.query fun w => w.stepUpSessions.find? (·.nonce == input.nonce)
  match ← selectIdentityById input.identityId with
  | none => pure (.failed "Identity not found" "IDENTITY_NOT_FOUND")
  | some identity =>
    match ← selectDidRecord identity.did with
    | none => pure (.failed "No DID record for this identity" "DID_NOT_FOUND")
    | some record => pure (checkStepUpSignature env input session identity record)

def verifyStepUpChallenge (input : VerifyStepUpInput) : Promise VerifyStepUpResult :=
  if !env.databaseConfigured then pure (.failed "Database unavailable" "DATABASE_UNAVAILABLE")
  else do
    let affectedRows ← consumeStepUpSession input
    if affectedRows = 0 then
      pure (.failed ("Step-up challenge is invalid, expired, already used, or bound to a " ++
        "different identity/purpose") "STEP_UP_INVALID")
    else verifyConsumedStepUp env input

def verifiedSince (identityId purpose : String) (since : Time) (row : StepUpSessionRow) : Bool :=
  row.identityId == identityId && row.purpose == purpose &&
    row.consumedAt.any fun consumedAt => decide (since < consumedAt)

def hasValidStepUp (identityId purpose : String) : Promise Bool :=
  if !env.databaseConfigured then pure false
  else Async.query fun w =>
    (Table.newest (fun row => row.consumedAt.getD 0)
      (verifiedSince identityId purpose (w.now - stepUpValidityMs)) w.stepUpSessions).isSome

end Sampraan.Did
