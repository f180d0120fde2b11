import Sampraan.Auth.Sessions
import Sampraan.Auth.Throttle
import Sampraan.Library.Interleaving

/-!
The procedures that issue and revoke session tokens: `auth.login` and
`auth.logout` of `routers.ts`, the session that `did.verifyChallenge` mints, and
the OAuth callback of `oauth.ts`.
-/

namespace Sampraan.Auth

open Backend Library

variable (env : AuthEnvironment)

/-! ### Password login -/

/-- `email` has been trimmed and lower-cased. -/
structure LoginInput where
  email : String
  password : String
  deriving DecidableEq

/-- The masked address of the audit rows: two characters, and the part from the last `@` on. -/
def maskEmail (email : String) : String :=
  let chars := email.toList
  if '@' ∈ chars.drop 2 then
    String.ofList (chars.take 2 ++ "***@".toList ++ (chars.reverse.takeWhile (· ≠ '@')).reverse)
  else email

def auditLogin (action resourceId reason : String) (decision : AuditDecision) : Promise Unit :=
  createAuditEvent env.toEnvironment
    { actorIdentityId := none
      action := action
      resourceType := "SESSION"
      resourceId := resourceId
      decision := decision
      reason := reason }

def trail (email : String) (stage : LoginStage) (w : World) : World :=
  { w with loginTrail := w.loginTrail ++ [{ key := normalizeEmail email, stage := stage }] }

def admitIn (email : String) (w : World) : World :=
  if (isLoginThrottled w.failuresByEmail email w.now).isSome then w else trail email .admitted w

/-- The check of the throttle, when the call comes in. -/
def checkThrottle (email : String) : Promise (Option LoginThrottle) :=
  Async.statement fun w => (isLoginThrottled w.failuresByEmail email w.now, admitIn email w)

def throttled (input : LoginInput) (throttle : LoginThrottle) : Promise α := do
  auditLogin env "LOGIN_THROTTLED" (maskEmail input.email) "Too many failed login attempts" .deny
  throw (.trpc .tooManyRequests
    s!"Too many failed login attempts. Try again in {-(-throttle.retryAfterMs / 60000)} minutes.")

def getUserByEmail (email : String) : Promise (Option UserRow) :=
  if !env.databaseConfigured then pure none
  else attempt fun w => (w.users.find? (·.email == some email), w)

/-- `verifyPassword`, or `burnPasswordTiming` for a user without a password hash. -/
def authenticate (input : LoginInput) (user : Option UserRow) : Promise Bool :=
  Async.statement fun w =>
    (verifyPassword env.passwordLibrary input.password (user.bind UserRow.passwordHash),
      trail input.email .verifying w)

def failIn (email : String) (w : World) : World :=
  trail email (.failed (failedEntry (w.failuresByEmail (normalizeEmail email)) w.now))
    { w with failuresByEmail := recordLoginFailure w.failuresByEmail email w.now }

def clearIn (email : String) (w : World) : World :=
  trail email .succeeded { w with failuresByEmail := clearLoginFailures w.failuresByEmail email }

def refuseLogin (input : LoginInput) : Promise α := do
  Async.statement fun w => ((), failIn input.email w)
  auditLogin env "LOGIN_FAILED" (maskEmail input.email) "Invalid email or password" .deny
  throw (.trpc .unauthorized "Invalid email or password")

/-- The token of a user, tracked. -/
def issueSession (openId name : String) (linkedUserId : ℕ) : Promise String := do
  let sessionToken ← createSessionToken env openId name
  let now ← Async.query fun w => w.now
  trackPlatformSession env
    { sessionToken := sessionToken
      linkedUserId := linkedUserId
      expiresAt := now + sessionTtlMs }
  pure sessionToken

/-- The cookie that the reply sets. -/
def acceptLogin (input : LoginInput) (user : UserRow) : Promise String := do
  Async.statement fun w => ((), clearIn input.email w)
  let sessionToken ← issueSession env user.openId (user.name.getD "") user.id
  auditLogin env "LOGIN_SUCCEEDED" user.openId "Local password authentication succeeded" .allow
  pure sessionToken

def login (input : LoginInput) : Promise String := do
  match ← checkThrottle input.email with
  | some throttle => throttled env input throttle
  | none => do
    let user ← tryCatch (getUserByEmail env input.email) fun _ => pure none
    let authenticated ← authenticate env input user
    match user with
    | none => refuseLogin env input
    | some user =>
      if !authenticated then refuseLogin env input else acceptLogin env input user

/-! ### The other ways in -/

/-- What `did.verifyChallenge` does for the linked user once the signature has been verified. -/
def mintDidSession (linkedUserId : ℕ) : Promise (Option String) :=
  if !env.databaseConfigured then pure none
  else do
    match ← attempt fun w => (w.users.find? (·.id == linkedUserId), w) with
    | none => pure none
    | some linkedUser =>
      return some (← issueSession env linkedUser.openId (linkedUser.name.getD "") linkedUser.id)

/-- `sdk.getUserInfo`, which the OAuth server answers. -/
structure OAuthUserInfo where
  openId : String
  name : Option String
  email : Option String
  deriving DecidableEq

def nonEmpty (text : Option String) : Option String := text.filter (· ≠ "")

/-- The new row's id is the next one. -/
def upsertUserIn (info : OAuthUserInfo) (w : World) : World :=
  if w.users.any (·.openId == info.openId) then
    { w with
      users := Table.update (·.openId == info.openId)
        (fun r => { r with name := nonEmpty info.name, email := info.email }) w.users }
  else
    { w with
      users := w.users ++
        [{ id := (w.users.map UserRow.id).foldr max 0 + 1
           openId := info.openId
           name := nonEmpty info.name
           email := info.email
           passwordHash := none }] }

def upsertUser (info : OAuthUserInfo) : Promise Unit :=
  if !env.databaseConfigured then pure () else attempt fun w => ((), upsertUserIn info w)

def getUserByOpenId (openId : String) : Promise (Option UserRow) :=
  if !env.databaseConfigured then pure none
  else attempt fun w => (w.users.find? (·.openId == openId), w)

/-- The callback after the exchange of the code; `none` when it answers with an error status. -/
def oauthCallback (info : OAuthUserInfo) : Promise (Option String) :=
  if info.openId = "" then pure none
  else
    tryCatch
      (do
        upsertUser env info
        let sessionToken ← createSessionToken env info.openId (info.name.getD "")
        match ← getUserByOpenId env info.openId with
        | none => pure (some sessionToken)
        | some loginUser => do
          let now ← Async.query fun w => w.now
          trackPlatformSession env
            { sessionToken := sessionToken
              linkedUserId := loginUser.id
              expiresAt := now + sessionTtlMs }
          pure (some sessionToken))
      fun _ => pure none

/-! ### Logout -/

/-- The tokens of the two channels, without repetition. -/
def logoutTokens (bearerToken cookieToken : Option String) : List String :=
  ([bearerToken, cookieToken].filterMap nonEmpty).eraseDups

/-- A failure to revoke is logged only. -/
def revokeAll : List String → Promise Unit
  | [] => pure ()
  | token :: tokens => do
    tryCatch (do let _ ← revokePlatformSession env token) fun _ => pure ()
    revokeAll tokens

def logout (bearerToken cookieToken : Option String) : Promise Unit :=
  revokeAll env (logoutTokens bearerToken cookieToken)

/-! ### The system -/

inductive AuthCall where
  | login (input : LoginInput)
  | mintDidSession (linkedUserId : ℕ)
  | oauthCallback (info : OAuthUserInfo)
  | logout (bearerToken cookieToken : Option String)
  | revoke (sessionToken : String)
  | classify (sessionToken : String)
  | authenticate (sessionToken : Option String)
  deriving DecidableEq

inductive AuthReply where
  | session (sessionToken : Option String)
  | revoked (revoked : Bool)
  | state (state : PlatformSessionState)
  | payload (payload : SessionPayload)
  | success
  deriving DecidableEq

def authBody : AuthCall → Promise AuthReply
  | .login input => do return .session (some (← login env input))
  | .mintDidSession linkedUserId => do return .session (← mintDidSession env linkedUserId)
  | .oauthCallback info => do return .session (← oauthCallback env info)
  | .logout bearerToken cookieToken => do
    logout env bearerToken cookieToken
    return .success
  | .revoke sessionToken => do return .revoked (← revokePlatformSession env sessionToken)
  | .classify sessionToken => do return .state (← classifyPlatformSession env sessionToken)
  | .authenticate sessionToken => do return .payload (← authenticateSession env sessionToken)

/-- What runs beside: time passes, and any table but the sessions may change. -/
structure AuthInterference (s t : World) : Prop where
  now : s.now ≤ t.now
  sessions : t.sessions = s.sessions
  failuresByEmail : t.failuresByEmail = s.failuresByEmail
  loginTrail : t.loginTrail = s.loginTrail
  signedSessions : t.signedSessions = s.signedSessions

def authSystem : System AuthCall World Error AuthReply where
  body := authBody env
  interfere := AuthInterference

/-! ### A sample deployment -/

/-- A text with each of its characters doubled, and a mark after it. -/
def marked (text : String) : List Char := (text.toList.flatMap fun c => [c, c]) ++ ['a', 'b']

def sampleToken (claims : SessionClaims) : String :=
  String.ofList (marked claims.openId ++ marked claims.appId ++ marked claims.name ++
    (if claims.exp < 0 then '-' else '+') :: Nat.toDigits 10 claims.exp.natAbs)

def sampleAuth : AuthEnvironment where
  toEnvironment := { sampleEnvironment with sha256 := { sampleEnvironment.sha256 with text := id } }
  cookieSecret := "a secret"
  jose :=
    { sign := fun _ claims => sampleToken claims
      verify := fun _ _ _ => none }
  passwordLibrary :=
    { normalizeNFKC := id
      number := Decimal.bigInt?
      scrypt := fun password _ _ _ _ _ => some (password.toList.map fun c => UInt8.ofNat c.toNat) }

/-- The sample deployment with a user whose password is `correct horse`. -/
def sampleUsers : World :=
  { sampleWorld with
    users :=
      [{ id := 1
         openId := "eve"
         name := some "Eve"
         email := some "eve@x.in"
         passwordHash := some "scrypt$32768$8$1$c2FsdA$Y29ycmVjdCBob3JzZQ" }] }

end Sampraan.Auth
