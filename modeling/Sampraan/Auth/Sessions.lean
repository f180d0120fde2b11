import Sampraan.Auth.Password
import Sampraan.Library.Table

/-!
Session tokens: `signSession`, `verifySession` and the revocation gate of
`sdk.ts`, and the functions of `db.ts` on the rows that track them.
-/

namespace Sampraan.Auth

open Backend Library

def sessionTtlMs : ℤ := 1000 * 60 * 60 * 24 * 7

/-- The payload of a verified token; a claim that is no string is missing. -/
structure TokenPayload where
  openId : Option String
  appId : Option String
  name : Option String
  deriving DecidableEq

/-- `jose`: `sign` makes the HS256 token of the claims; `verify` gives the payload of a token that
was signed with the secret and has not expired at the time. -/
structure Jose where
  sign : String → SessionClaims → String
  verify : String → String → Time → Option TokenPayload

structure AuthEnvironment extends Environment where
  cookieSecret : String
  jose : Jose
  passwordLibrary : PasswordLibrary

variable (env : AuthEnvironment)

def AuthEnvironment.appId : String := env.process.viteAppId.getD ""

/-- A statement that the database may reject. -/
def attempt {α : Type} (f : World → α × World) : Promise α := do
  match ← Async.statement fun w => if w.databaseFails then (none, w) else (some (f w).1, (f w).2) with
  | some a => pure a
  | none => throw (.other "Failed query")

theorem attempt_obeys {α : Type} {I : World → Prop} {T : World → World → Prop}
    {f : World → α × World} (hrefl : ∀ s, T s s) (hf : ∀ s, T s (f s).2) :
    (attempt f).Obeys I T := by
  apply Async.Obeys.bind
  · apply Async.obeys_statement
    intro s _
    split
    · exact hrefl s
    · exact hf s
  · intro a
    cases a with
    | none => exact Async.obeys_throw _
    | some a => exact Async.obeys_pure a

/-! ### Tokens -/

def sessionClaims (openId name : String) (now : Time) : SessionClaims where
  openId := openId
  appId := env.appId
  name := name
  exp := (now + sessionTtlMs) / 1000

def signToken (claims : SessionClaims) : String := env.jose.sign env.cookieSecret claims

/-- `createSessionToken` with its `signSession`. -/
def createSessionToken (openId name : String) : Promise String :=
  Async.statement fun w =>
    let claims := sessionClaims env openId name w.now
    (signToken env claims, { w with signedSessions := w.signedSessions ++ [claims] })

structure SessionPayload where
  openId : String
  appId : String
  name : String
  deriving DecidableEq

def verifySession (cookieValue : Option String) (now : Time) : Option SessionPayload :=
  match cookieValue with
  | none => none
  | some cookieValue =>
    if cookieValue = "" then none
    else
      match env.jose.verify env.cookieSecret cookieValue now with
      | none => none
      | some payload =>
        let openId := payload.openId.getD ""
        let appId := payload.appId.getD ""
        if openId = "" ∨ appId = "" then none
        else if appId ≠ env.appId then none
        else some { openId := openId, appId := appId, name := payload.name.getD "" }

/-! ### The rows that track tokens -/

def hashSessionToken (sessionToken : String) : String := env.sha256.text sessionToken

inductive PlatformSessionState where
  | untracked
  | active (identityId : String) (expiresAt : Time)
  | revoked
  | expired
  deriving DecidableEq

def sessionRow (w : World) (sessionToken : String) : Option SessionRow :=
  w.sessions.find? (·.sessionId == hashSessionToken env sessionToken)

def sessionState (w : World) (sessionToken : String) : PlatformSessionState :=
  match sessionRow env w sessionToken with
  | none => .untracked
  | some row =>
    if row.revokedAt.isSome then .revoked
    else if row.expiresAt ≤ w.now then .expired
    else .active row.identityId row.expiresAt

def classifyPlatformSession (sessionToken : String) : Promise PlatformSessionState :=
  if !env.databaseConfigured then pure .untracked
  else attempt fun w => (sessionState env w sessionToken, w)

def isUnrevoked (sessionToken : String) (r : SessionRow) : Bool :=
  r.sessionId == hashSessionToken env sessionToken && r.revokedAt.isNone

def revokeIn (sessionToken : String) (w : World) : World :=
  { w with
    sessions := Table.update (isUnrevoked env sessionToken) (fun r => { r with revokedAt := some w.now })
      w.sessions }

def revokePlatformSession (sessionToken : String) : Promise Bool :=
  if !env.databaseConfigured then pure false
  else attempt fun w => (w.sessions.any (isUnrevoked env sessionToken), revokeIn env sessionToken w)

def unlinkedSessionsIdentityId : String := "00000000-0000-4000-8000-000000000000"

def unlinkedSessionsDid : String := "did:sampraan:platform-user-sessions"

def unlinkedSessionsIdentity : IdentityRow where
  id := unlinkedSessionsIdentityId
  linkedUserId := none
  displayName := "Platform User Sessions"
  status := .active
  did := unlinkedSessionsDid
  lifecycleState := .verified
  organization := "SAMPRAAN"

def ensureUnlinkedSessionsIdentity : Promise Unit :=
  attempt fun w => ((),
    if w.identities.any fun r => r.id == unlinkedSessionsIdentityId || r.did == unlinkedSessionsDid
    then w
    else { w with identities := w.identities ++ [unlinkedSessionsIdentity] })

structure TrackedSession where
  sessionToken : String
  linkedUserId : ℕ
  expiresAt : Time

def newSession (input : TrackedSession) (identityId : String) : SessionRow where
  identityId := identityId
  sessionId := hashSessionToken env input.sessionToken
  expiresAt := input.expiresAt
  revokedAt := none

/-- The update on a duplicate key revives a revoked row. -/
def upsertSession (input : TrackedSession) (identityId : String) (w : World) : World :=
  { w with
    sessions := Table.upsert (·.sessionId == hashSessionToken env input.sessionToken)
      (newSession env input identityId)
      (fun r => { r with expiresAt := input.expiresAt, revokedAt := none }) w.sessions }

def sessionIdentityId (linkedUserId : ℕ) : Promise String := do
  match ← attempt fun w => (w.identities.find? (·.linkedUserId == some linkedUserId), w) with
  | some identity => pure identity.id
  | none => do
    ensureUnlinkedSessionsIdentity
    pure unlinkedSessionsIdentityId

def storeSession (input : TrackedSession) : Promise Unit := do
  let known ← attempt fun w => (w.users.any (·.id == input.linkedUserId), w)
  if !known then pure ()
  else do
    let identityId ← sessionIdentityId input.linkedUserId
    attempt fun w => ((), upsertSession env input identityId w)

/-- A failure to track is logged only. -/
def trackPlatformSession (input : TrackedSession) : Promise Unit :=
  if !env.databaseConfigured then pure ()
  else tryCatch (storeSession env input) fun _ => pure ()

/-! ### The revocation gate -/

/-- `authenticateRequest` up to the look-up of the user, which can only refuse further. A failed
look-up of the session leaves the token to its own validity. -/
def authenticateSession (sessionToken : Option String) : Promise SessionPayload := do
  match ← Async.query fun w => verifySession env sessionToken w.now with
  | none => throw (.trpc .forbidden "Invalid session cookie")
  | some session => do
    let tracked ← tryCatch (classifyPlatformSession env (sessionToken.getD "")) fun _ =>
      pure .untracked
    match tracked with
    | .revoked => throw (.trpc .forbidden "Session was revoked")
    | .expired => throw (.trpc .forbidden "Session expired")
    | _ => pure session

end Sampraan.Auth
