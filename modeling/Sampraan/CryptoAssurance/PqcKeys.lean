import Sampraan.CryptoAssurance.Router
import Sampraan.Library.Decimal

/-! The key registry of `assurance.router.ts`: ML-DSA-65 keys are registered and revoked. -/

namespace Sampraan.CryptoAssurance

open Backend Library

/-! ### Key identifiers -/

/-- The number between `pqc-key-` and the next dash; 1 where there is none. -/
def generationOf (keyIdentifier : String) : ℕ :=
  if "pqc-key-".toList.isPrefixOf keyIdentifier.toList then
    let rest := keyIdentifier.toList.drop 8
    let digits := rest.takeWhile Char.isDigit
    if digits ≠ [] ∧ (rest.drop digits.length).head? = some '-' then
      digits.foldl (fun n c => 10 * n + (c.toNat - '0'.toNat)) 0
    else 1
  else 1

variable (env : Environment)

@[simp] theorem generationOf_pqcKeyIdentifierFor (did : String) (n : ℕ) :
    generationOf (pqcKeyIdentifierFor env did n) = n := by
  let digest := (sliceTo 12 (env.sha256.text (did ++ s!"#ml-dsa-65#{n}"))).toList
  have hlist : (pqcKeyIdentifierFor env did n).toList =
      "pqc-key-".toList ++ (Nat.toDigits 10 n ++ '-' :: digest) := by
    simp [pqcKeyIdentifierFor, Nat.toList_repr, digest, toString]
  have hprefix : "pqc-key-".toList.isPrefixOf (pqcKeyIdentifierFor env did n).toList = true := by
    rw [hlist, List.isPrefixOf_iff_prefix]
    exact List.prefix_append _ _
  have hrest : (pqcKeyIdentifierFor env did n).toList.drop 8 =
      Nat.toDigits 10 n ++ '-' :: digest := by
    rw [hlist]
    rfl
  simp only [generationOf, hprefix, if_true, hrest]
  rw [Decimal.takeWhile_toDigits_append n (by simp), Decimal.foldl_toDigits]
  simp [Nat.toDigits_ne_nil]

@[simp] theorem pqcKeyIdentifierFor_inj {did : String} {n m : ℕ} :
    pqcKeyIdentifierFor env did n = pqcKeyIdentifierFor env did m ↔ n = m := by
  constructor
  · intro h
    rw [← generationOf_pqcKeyIdentifierFor env did n, h, generationOf_pqcKeyIdentifierFor]
  · rintro rfl
    rfl

example : generationOf "pqc-key-12-5ca1ab1e" = 12 := by decide

/-! ### The table -/

def isPqcKey (did keyIdentifier : String) (row : PqcKeyRecordRow) : Bool :=
  row.did == did && row.keyIdentifier == keyIdentifier

structure PqcKeyInput where
  did : String
  keyIdentifier : String
  publicKey : String
  publicKeyFingerprint : String
  deriving DecidableEq

def PqcKeyInput.row (input : PqcKeyInput) (now : Time) : PqcKeyRecordRow where
  did := input.did
  keyIdentifier := input.keyIdentifier
  publicKey := input.publicKey
  publicKeyFingerprint := input.publicKeyFingerprint
  keySource := .registered
  status := .active
  createdAt := now

/-- On a duplicate key identifier the row takes the new public key. -/
def registerPqcKeyIn (input : PqcKeyInput) (now : Time) (rows : List PqcKeyRecordRow) :
    List PqcKeyRecordRow :=
  Table.upsert (isPqcKey input.did input.keyIdentifier) (input.row now)
    (fun row =>
      { row with
        publicKey := input.publicKey
        publicKeyFingerprint := input.publicKeyFingerprint
        keySource := .registered
        status := .active })
    rows

def registerPqcKeyRecord (input : PqcKeyInput) : Promise (Option PqcKeyRecordRow) :=
  if !env.databaseConfigured then pure none
  else do
    Async.statement fun w =>
      ((), { w with pqcKeyRecords := registerPqcKeyIn input w.now w.pqcKeyRecords })
    let rows ← Async.query fun w => (w.pqcKeyRecords.filter (·.did == input.did)).take 50
    pure (rows.find? (·.keyIdentifier == input.keyIdentifier))

/-- On a duplicate key identifier the row keeps its public key. -/
def rotatePqcKeyIn (input : PqcKeyInput) (previousKeyIdentifier : String) (now : Time)
    (rows : List PqcKeyRecordRow) : List PqcKeyRecordRow :=
  Table.upsert (isPqcKey input.did input.keyIdentifier) (input.row now)
    (fun row => { row with status := .active })
    (Table.update (isPqcKey input.did previousKeyIdentifier)
      (fun row => { row with status := .rotated }) rows)

def rotatePqcKeyRecord (input : PqcKeyInput) (previousKeyIdentifier : String) :
    Promise (Option PqcKeyRecordRow) :=
  if !env.databaseConfigured then pure none
  else do
    Async.statement fun w => ((),
      { w with
        pqcKeyRecords := rotatePqcKeyIn input previousKeyIdentifier w.now w.pqcKeyRecords })
    getActivePqcKeyRecord env input.did

/-- The `note` column, which is set to the reason, takes 200 characters. -/
def setPqcKeyStatus (did : String) (status : KeyStatus) (note : String) : Promise Bool :=
  if !env.databaseConfigured then pure false
  else do
    let affectedRows ← Async.statement fun w =>
      let affected := Table.affectedRows (·.did == did) w.pqcKeyRecords
      if 0 < affected ∧ 200 < note.length then (none, w)
      else
        (some affected,
          { w with
            pqcKeyRecords := Table.update (·.did == did) (fun row => { row with status := status })
              w.pqcKeyRecords })
    match affectedRows with
    | some affected => pure (decide (0 < affected))
    | none => throw (.other "Data too long for column 'note'")

/-! ### The procedures -/

def parsePublicKey (value : String) : Option (Bytes × String) :=
  match decodeBase64Url value with
  | none => none
  | some bytes =>
    if bytes.length ≠ mlDsa65PublicKeySize then none
    else some (bytes, fingerprintPublicKey env bytes)

def isDegeneratePublicKey (bytes : Bytes) : Bool := bytes.all (· == 0)

def auditKey (actor : Actor) (action resourceType resourceId : String) (decision : AuditDecision)
    (reason : String) : Promise Unit :=
  createAuditEvent env
    { actorIdentityId := some actor.identity.id
      action := action
      resourceType := resourceType
      resourceId := resourceId
      decision := decision
      reason := reason }

def buildKeyRegistrationMessage (did keyIdentifier algorithm publicKeyFingerprint audience : String)
    (generation : ℕ) : String :=
  "\n".intercalate
    ["SAMPRAAN PQC Key Registration",
      "version: 1",
      s!"did: {did}",
      s!"keyId: {keyIdentifier}",
      s!"algorithm: {algorithm}",
      s!"public-key-sha256: {publicKeyFingerprint}",
      s!"generation: {generation}",
      s!"audience: {audience}",
      "Signing this message proves possession of the ML-DSA-65 secret key for this DID."]

structure RegisterKeyInput where
  publicKey : String
  proofOfPossession : String
  deriving DecidableEq

structure RegisterKeyResult where
  keyIdentifier : String
  algorithm : String
  publicKeyFingerprint : String
  rotatedFrom : Option String
  deriving DecidableEq

def nextPqcGeneration (existing : Option PqcKeyRecordRow) : ℕ :=
  match existing with
  | some existing => generationOf existing.keyIdentifier + 1
  | none => 1

def possessed (did fingerprint : String) (generation : ℕ) (input : RegisterKeyInput) : Bool :=
  verifyMessageSignature env
    (buildKeyRegistrationMessage did (pqcKeyIdentifierFor env did generation) mlDsa65Algorithm
      fingerprint (assuranceAudience env) generation)
    input.publicKey input.proofOfPossession

def writeKey (existing : Option PqcKeyRecordRow) (input : PqcKeyInput) :
    Promise (Option PqcKeyRecordRow) :=
  match existing with
  | some existing => rotatePqcKeyRecord env input existing.keyIdentifier
  | none => registerPqcKeyRecord env input

def registeredKey (did fingerprint : String) (generation : ℕ) (input : RegisterKeyInput) :
    PqcKeyInput where
  did := did
  keyIdentifier := pqcKeyIdentifierFor env did generation
  publicKey := input.publicKey
  publicKeyFingerprint := fingerprint

/-- `key.register` once the submitted key has been parsed. -/
def registerParsedKey (actor : Actor) (input : RegisterKeyInput) (fingerprint : String) :
    Promise RegisterKeyResult := do
  let did := actor.identity.did
  let existing ← getActivePqcKeyRecord env did
  let generation := nextPqcGeneration existing
  if !possessed env did fingerprint generation input then do
    auditKey env actor "PQC_KEY_REGISTRATION_REJECTED" "IDENTITY" actor.identity.id .deny
      "ML-DSA-65 proof of possession failed"
    throw (.trpc .badRequest
      "Proof of possession failed — the signature must verify against the submitted public key")
  else
    match ← writeKey env existing (registeredKey env did fingerprint generation input) with
    | none => throw (.trpc .internalServerError "Database unavailable")
    | some record => do
      auditKey env actor
        (if existing.isSome then "PQC_KEY_ROTATED" else "PQC_KEY_REGISTERED") "DID" did .allow
        (mlDsa65Algorithm ++ " key " ++ (if existing.isSome then "rotated" else "registered") ++
          s!" (generation {generation})")
      pure
        { keyIdentifier := record.keyIdentifier
          algorithm := mlDsa65Algorithm
          publicKeyFingerprint := record.publicKeyFingerprint
          rotatedFrom := existing.map PqcKeyRecordRow.keyIdentifier }

def registerKey (user : Option ℕ) (input : RegisterKeyInput) : Promise RegisterKeyResult := do
  let actor ← requireActor env user
  if actor.identity.status ≠ .active ∨ actor.identity.lifecycleState ≠ .verified then
    throw (.trpc .forbidden
      s!"Identity is {actor.identity.lifecycleState.label} — a PQC key cannot be registered")
  else
    match parsePublicKey env input.publicKey with
    | none =>
      throw (.trpc .badRequest "publicKey must be a base64url ML-DSA-65 public key (1952 bytes)")
    | some (bytes, fingerprint) =>
      if isDegeneratePublicKey bytes then
        throw (.trpc .badRequest "Refusing to register an all-zero public key")
      else registerParsedKey env actor input fingerprint

structure RevokeKeyInput where
  did : Option String
  reason : String
  deriving DecidableEq

structure RevokeKeyResult where
  did : String
  keyIdentifier : String
  deriving DecidableEq

/-- The DID that a revocation is about: the actor's own, or for an administrator another one. -/
def revokedDid (actor : Actor) (input : RevokeKeyInput) : Except Error String :=
  match input.did with
  | none => .ok actor.identity.did
  | some did =>
    if did = "" ∨ did = actor.identity.did then .ok actor.identity.did
    else if "ADMIN" ∉ actor.roles then
      .error (.trpc .forbidden "Revoking another DID's PQC key requires the ADMIN role")
    else .ok did

def revokeKey (user : Option ℕ) (input : RevokeKeyInput) : Promise RevokeKeyResult := do
  let actor ← requireActor env user
  match revokedDid actor input with
  | .error error => throw error
  | .ok targetDid =>
    match ← getActivePqcKeyRecord env targetDid with
    | none => throw (.trpc .notFound "No ACTIVE ML-DSA-65 key for this DID")
    | some active => do
      let _ ← setPqcKeyStatus env targetDid .revoked input.reason
      auditKey env actor "PQC_KEY_REVOKED" "DID" targetDid .allow input.reason
      pure { did := targetDid, keyIdentifier := active.keyIdentifier }

end Sampraan.CryptoAssurance
