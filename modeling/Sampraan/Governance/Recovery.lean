import Sampraan.Backend.RecoveryTables
import Sampraan.Did.KeyRotation
import Sampraan.Governance.Transfer

/-! The key recovery of `governance.router.ts`: request, decide, execute. -/

namespace Sampraan.Governance.Recovery

open Backend Library
open CryptoAssurance (Actor)
open Transfer (matchesScope)

variable (env : Environment)

def requestNotFound : Error := .trpc .notFound "Recovery request not found"

def auditRecovery (actor : Actor) (action resourceId reason : String) : Promise Unit :=
  audit env actor.identity.id action "IDENTITY" resourceId .allow reason

/-! ### request -/

structure RequestInput where
  subjectDid : String
  newKeyDigest : String
  reason : String
  deriving DecidableEq

/-- `uuid` is what `crypto.randomUUID()` gives. -/
def requestKeyRecovery (user : Option ℕ) (uuid : String) (input : RequestInput) :
    Promise (Option KeyRecoveryRequestRow) := do
  let actor ← requireActor env user
  let subject ← requireTarget env input.subjectDid
  if subject.identity.id ≠ actor.identity.id ∧ hasRole actor "MANAGER" = false then
    throw (.trpc .forbidden "Recovery requests require the MANAGER role (or self-service)")
  else if subject.identity.id ≠ actor.identity.id ∧ hasRole actor "MANAGER" = true ∧
      matchesScope actor subject.identity = false then
    throw (.trpc .forbidden "Subject is outside your scope")
  else if subject.identity.lifecycleState = .deactivated then
    throw (.trpc .preconditionFailed "A deactivated identity cannot be recovered")
  else do
    let request ← createKeyRecoveryRequest env uuid
      { subjectIdentityId := subject.identity.id
        requestedByIdentityId := actor.identity.id
        newKeyDigest := input.newKeyDigest }
    auditRecovery env actor "KEY_RECOVERY_REQUESTED" subject.identity.id input.reason
    pure request

/-! ### decide -/

inductive Decision where
  | approved
  | rejected
  deriving DecidableEq

def Decision.status : Decision → KeyRecoveryStatus
  | .approved => .approved
  | .rejected => .rejected

structure DecideInput where
  requestId : String
  decision : Decision
  reason : String
  deriving DecidableEq

def decidedPatch (actor : Actor) (input : DecideInput) (_ : Time) (r : KeyRecoveryRequestRow) :
    KeyRecoveryRequestRow :=
  { r with
    status := input.decision.status
    decidedByIdentityId := some actor.identity.id
    decisionReason := some input.reason }

def decideKeyRecovery (user : Option ℕ) (input : DecideInput) :
    Promise (Option KeyRecoveryRequestRow) := do
  let actor ← requireActor env user
  assertAdmin actor "Key recovery decision"
  match ← getKeyRecoveryRequest env input.requestId with
  | none => throw requestNotFound
  | some request =>
    if request.status ≠ .pending ∧ request.status ≠ .awaitingAdmin then
      throw (.trpc .preconditionFailed
        (s!"Recovery request is {request.status.label}; " ++
          "only PENDING/AWAITING_ADMIN can be decided"))
    else if request.requestedByIdentityId = actor.identity.id then
      throw (.trpc .forbidden "Self-approval is not permitted (maker-checker)")
    else do
      let updated ← updateKeyRecoveryRequest env input.requestId (decidedPatch actor input)
      auditRecovery env actor
        (if input.decision = .approved then "KEY_RECOVERY_APPROVED" else "KEY_RECOVERY_REJECTED")
        request.subjectIdentityId input.reason
      pure updated

/-! ### execute -/

structure ExecuteInput where
  requestId : String
  newPublicKey : String
  deriving DecidableEq

def digestOfPublicKey (publicKey : String) : String := env.sha256.text publicKey

def executedPatch (now : Time) (r : KeyRecoveryRequestRow) : KeyRecoveryRequestRow :=
  { r with status := .executed, executedAt := some now }

/-- The answer's `newKeyIdentifier`. The digest of the presented key goes into the metadata of the
audit row only. -/
def executeKeyRecovery (user : Option ℕ) (input : ExecuteInput) : Promise String := do
  let actor ← requireActor env user
  assertAdmin actor "Key recovery execution"
  match ← getKeyRecoveryRequest env input.requestId with
  | none => throw requestNotFound
  | some request =>
    if request.status ≠ .approved then
      throw (.trpc .preconditionFailed
        (s!"Only APPROVED recovery requests can be executed " ++
          s!"(this one is {request.status.label})"))
    else if request.executedAt.isSome then
      throw (.trpc .preconditionFailed "Recovery request already executed (replay-proof)")
    else
      match ← getIdentityById env request.subjectIdentityId with
      | none => throw (.trpc .notFound "Subject identity missing")
      | some subject =>
        match ← Did.rotateDidKey env subject.did
          s!"Governed key recovery (request {request.id})" with
        | .error reason => throw (.trpc .preconditionFailed s!"Key rotation refused: {reason}")
        | .ok rotation => do
          let _ ← updateKeyRecoveryRequest env input.requestId executedPatch
          auditRecovery env actor "KEY_RECOVERY_EXECUTED" subject.id
            s!"Key recovery executed for {subject.did}"
          pure rotation.newKeyIdentifier

end Sampraan.Governance.Recovery
