import Sampraan.Auth.Login
import Sampraan.Governance.Actors
import Sampraan.Library.Phases

/-!
How many passwords can be tried for one e-mail address. The throttle is asked
before the user is looked up and the password verified, and told only after, so
its bound is on the failures it has been told of.
-/

namespace Sampraan.Auth

open Backend Library

/-! ### What is counted -/

def countEvents (stage : LoginStage → Bool) (key : String) (w : World) : ℕ :=
  w.loginTrail.countP fun e => e.key == key && stage e.stage

def isSettled : LoginStage → Bool
  | .failed _ => true
  | .succeeded => true
  | _ => false

def admissions (key : String) (w : World) : ℕ := countEvents (· == .admitted) key w

def verifications (key : String) (w : World) : ℕ := countEvents (· == .verifying) key w

def settlements (key : String) (w : World) : ℕ := countEvents isSettled key w

/-- The logins that were let through and have not been told of yet. -/
def outstanding (key : String) (w : World) : ℕ := admissions key w - settlements key w

/-- The failures of the window, while it lasts. -/
def windowFailures (key : String) (w : World) : ℕ :=
  match w.failuresByEmail key with
  | none => 0
  | some entry => if w.now - entry.windowStartedAt < windowMs then entry.count else 0

/-- The window or the block that came of it lasts. -/
def InForce (entry : ThrottleEntry) (now : Time) : Prop :=
  now - entry.windowStartedAt < windowMs ∨ ∃ t ∈ entry.blockedUntil, now < t

instance (entry : ThrottleEntry) (now : Time) : Decidable (InForce entry now) := by
  unfold InForce
  infer_instance

def sinceFirstFailure (key : String) (n : ℕ) (e : LoginEvent) : ℕ :=
  if e.key = key then
    match e.stage with
    | .verifying => n + 1
    | .failed entry => if entry.count = 1 then 0 else n
    | _ => n
  else n

/-- The verifications that have started since the failure that opened the last window. -/
def laterVerifications (key : String) (w : World) : ℕ :=
  w.loginTrail.foldl (sinceFirstFailure key) 0

/-- While a window or its block lasts, the password whose failure opened it and those verified
since are at most five, and no more than five failures are counted. -/
def GuessesBounded (w : World) : Prop :=
  ∀ key entry, w.failuresByEmail key = some entry → InForce entry w.now →
    laterVerifications key w + 1 ≤ maxFailuresPerWindow ∧ entry.count ≤ maxFailuresPerWindow

/-- When the statement lets a login through, fewer than five are outstanding or counted. -/
def RoomForGuess (_ : AuthCall) (s t : World) : Prop :=
  match t.loginTrail.drop s.loginTrail.length with
  | [⟨key, .admitted⟩] => outstanding key s + windowFailures key s < maxFailuresPerWindow
  | _ => True

instance (call : AuthCall) (s t : World) : Decidable (RoomForGuess call s t) := by
  unfold RoomForGuess
  split
  · infer_instance
  · exact .isTrue trivial

/-! ### The phases of a login -/

inductive LoginPhase where
  | outside
  | arrived (email : String)
  | admitted (key : String)
  | verifying (key : String)
  deriving DecidableEq

inductive LoginStep : LoginPhase → World → World → LoginPhase → Prop
  | silent {φ s t} (hfailures : t.failuresByEmail = s.failuresByEmail)
    (htrail : t.loginTrail = s.loginTrail) (hnow : t.now = s.now) : LoginStep φ s t φ
  | refuse {email s} (hs : isLoginThrottled s.failuresByEmail email s.now ≠ none) :
    LoginStep (.arrived email) s s .outside
  | letIn {email s} (hs : isLoginThrottled s.failuresByEmail email s.now = none) :
    LoginStep (.arrived email) s (trail email .admitted s) (.admitted (normalizeEmail email))
  | verify {email s} :
    LoginStep (.admitted (normalizeEmail email)) s (trail email .verifying s)
      (.verifying (normalizeEmail email))
  | fail {email s} :
    LoginStep (.verifying (normalizeEmail email)) s (failIn email s) .outside
  | clear {email s} :
    LoginStep (.verifying (normalizeEmail email)) s (clearIn email s) .outside

def entryPhase : AuthCall → LoginPhase
  | .login input => .arrived input.email
  | _ => .outside

/-- The statement leaves the throttle and the clock alone. -/
structure Unthrottled (s t : World) : Prop where
  failuresByEmail : t.failuresByEmail = s.failuresByEmail
  loginTrail : t.loginTrail = s.loginTrail
  now : t.now = s.now

theorem Unthrottled.refl (s : World) : Unthrottled s s := ⟨rfl, rfl, rfl⟩

theorem Unthrottled.step {s t : World} (h : Unthrottled s t) (φ : LoginPhase) :
    LoginStep φ s t φ :=
  .silent h.failuresByEmail h.loginTrail h.now

section

variable (env : AuthEnvironment) {I : World → Prop}

theorem createAuditEvent_unthrottled (event : AuditEventRow) :
    (createAuditEvent env.toEnvironment event).Obeys I Unthrottled := by
  apply (Governance.createAuditEvent_audits env.toEnvironment event).mono
  rintro s _ ⟨rows, rfl⟩
  exact ⟨rfl, rfl, rfl⟩

theorem sessionIdentityId_unthrottled (linkedUserId : ℕ) :
    (sessionIdentityId linkedUserId).Obeys I Unthrottled := by
  apply (attempt_obeys Unthrottled.refl Unthrottled.refl).bind
  intro identity
  cases identity with
  | some identity => exact Async.obeys_pure _
  | none =>
    refine (attempt_obeys Unthrottled.refl fun s => ?_).bind fun _ => Async.obeys_pure _
    dsimp only
    split
    · exact .refl s
    · exact ⟨rfl, rfl, rfl⟩

theorem storeSession_unthrottled (input : TrackedSession) :
    (storeSession env input).Obeys I Unthrottled := by
  apply (attempt_obeys Unthrottled.refl Unthrottled.refl).bind
  intro known
  apply Async.Obeys.ite (Async.obeys_pure _)
  apply (sessionIdentityId_unthrottled input.linkedUserId).bind
  intro identityId
  exact attempt_obeys Unthrottled.refl fun s => ⟨rfl, rfl, rfl⟩

theorem trackPlatformSession_unthrottled (input : TrackedSession) :
    (trackPlatformSession env input).Obeys I Unthrottled :=
  .ite (Async.obeys_pure _) ((storeSession_unthrottled env input).recover fun _ => Async.obeys_pure _)

theorem createSessionToken_unthrottled (openId name : String) :
    (createSessionToken env openId name).Obeys I Unthrottled :=
  Async.obeys_statement fun _ _ => ⟨rfl, rfl, rfl⟩

theorem issueSession_unthrottled (openId name : String) (linkedUserId : ℕ) :
    (issueSession env openId name linkedUserId).Obeys I Unthrottled := by
  apply (createSessionToken_unthrottled env openId name).bind
  intro token
  apply (Async.obeys_query Unthrottled.refl).bind
  intro now
  exact (trackPlatformSession_unthrottled env _).bind fun _ => Async.obeys_pure _

theorem mintDidSession_unthrottled (linkedUserId : ℕ) :
    (mintDidSession env linkedUserId).Obeys I Unthrottled := by
  apply Async.Obeys.ite (Async.obeys_pure _)
  apply (attempt_obeys Unthrottled.refl Unthrottled.refl).bind
  intro user
  cases user with
  | none => exact Async.obeys_pure _
  | some user => exact (issueSession_unthrottled env _ _ _).bind fun _ => Async.obeys_pure _

theorem oauthCallback_unthrottled (info : OAuthUserInfo) :
    (oauthCallback env info).Obeys I Unthrottled := by
  apply Async.Obeys.ite (Async.obeys_pure _)
  refine Async.Obeys.recover ?_ fun _ => Async.obeys_pure _
  have hupsert : (upsertUser env info).Obeys I Unthrottled := by
    refine Async.Obeys.ite (Async.obeys_pure _) (attempt_obeys Unthrottled.refl fun s => ?_)
    dsimp only [upsertUserIn]
    split
    · exact ⟨rfl, rfl, rfl⟩
    · exact ⟨rfl, rfl, rfl⟩
  apply hupsert.bind
  intro _
  apply (createSessionToken_unthrottled env _ _).bind
  intro token
  apply Async.Obeys.bind (Async.Obeys.ite (Async.obeys_pure _)
    (attempt_obeys Unthrottled.refl Unthrottled.refl))
  intro user
  cases user with
  | none => exact Async.obeys_pure _
  | some user =>
    apply (Async.obeys_query Unthrottled.refl).bind
    intro now
    exact (trackPlatformSession_unthrottled env _).bind fun _ => Async.obeys_pure _

theorem revokePlatformSession_unthrottled (token : String) :
    (revokePlatformSession env token).Obeys I Unthrottled :=
  .ite (Async.obeys_pure _) (attempt_obeys Unthrottled.refl fun _ => ⟨rfl, rfl, rfl⟩)

theorem revokeAll_unthrottled (tokens : List String) :
    (revokeAll env tokens).Obeys I Unthrottled := by
  induction tokens with
  | nil => exact Async.obeys_pure _
  | cons token tokens ih =>
    apply Async.Obeys.bind _ fun _ => ih
    refine Async.Obeys.recover ?_ fun _ => Async.obeys_pure _
    exact (revokePlatformSession_unthrottled env token).bind fun _ => Async.obeys_pure _

theorem classifyPlatformSession_unthrottled (token : String) :
    (classifyPlatformSession env token).Obeys I Unthrottled :=
  .ite (Async.obeys_pure _) (attempt_obeys Unthrottled.refl Unthrottled.refl)

theorem authenticateSession_unthrottled (token : Option String) :
    (authenticateSession env token).Obeys I Unthrottled := by
  apply (Async.obeys_query Unthrottled.refl).bind
  intro session
  cases session with
  | none => exact Async.obeys_throw _
  | some session =>
    apply Async.Obeys.bind ((classifyPlatformSession_unthrottled env _).recover fun _ =>
      Async.obeys_pure _)
    intro tracked
    cases tracked with
    | revoked => exact Async.obeys_throw _
    | expired => exact Async.obeys_throw _
    | untracked => exact Async.obeys_pure _
    | active identityId expiresAt => exact Async.obeys_pure _

/-- A part of a call that leaves the throttle alone. -/
theorem follows_unthrottled_bind {α β : Type} {p : Promise α} {k : α → Promise β} {φ : LoginPhase}
    {R : β → LoginPhase → Prop} (hp : p.Obeys (fun _ => True) Unthrottled)
    (hk : ∀ a, (k a).Follows LoginStep R φ) : (p >>= k).Follows LoginStep R φ :=
  hp.follows_bind (fun _ _ h => h.step φ) hk

theorem throttled_follows {α : Type} (input : LoginInput) (throttle : LoginThrottle)
    {R : α → LoginPhase → Prop} {φ : LoginPhase} :
    (throttled env input throttle : Promise α).Follows LoginStep R φ :=
  follows_unthrottled_bind (createAuditEvent_unthrottled env _) fun _ => .rejected _ _

theorem refuseLogin_follows {α : Type} (input : LoginInput) {R : α → LoginPhase → Prop} :
    (refuseLogin env input : Promise α).Follows LoginStep R
      (.verifying (normalizeEmail input.email)) := by
  apply Async.follows_statement_bind (fun _ => .outside) fun s => .fail
  intro s
  exact follows_unthrottled_bind (createAuditEvent_unthrottled env _) fun _ => .rejected _ _

theorem acceptLogin_follows (input : LoginInput) (user : UserRow) :
    (acceptLogin env input user).Follows LoginStep (fun _ _ => True)
      (.verifying (normalizeEmail input.email)) := by
  apply Async.follows_statement_bind (fun _ => .outside) fun s => .clear
  intro s
  apply follows_unthrottled_bind (issueSession_unthrottled env _ _ _)
  intro token
  exact follows_unthrottled_bind (createAuditEvent_unthrottled env _) fun _ => .fulfilled trivial

theorem getUserByEmail_unthrottled (email : String) :
    (getUserByEmail env email).Obeys I Unthrottled :=
  .ite (Async.obeys_pure _) (attempt_obeys Unthrottled.refl Unthrottled.refl)

theorem login_follows (input : LoginInput) :
    (login env input).Follows LoginStep (fun _ _ => True) (.arrived input.email) := by
  apply Async.follows_statement_bind fun s =>
    if isLoginThrottled s.failuresByEmail input.email s.now = none then
      .admitted (normalizeEmail input.email) else .outside
  · intro s
    by_cases hs : isLoginThrottled s.failuresByEmail input.email s.now = none
    · simp only [admitIn, hs, Option.isSome_none, Bool.false_eq_true, if_false, if_true]
      exact .letIn hs
    · have hsome := Option.isSome_iff_ne_none.mpr hs
      simp only [admitIn, hsome, hs, if_false, if_true]
      exact .refuse hs
  · intro s
    cases hs : isLoginThrottled s.failuresByEmail input.email s.now with
    | some throttle => exact throttled_follows env input throttle
    | none =>
      apply follows_unthrottled_bind ((getUserByEmail_unthrottled env _).recover fun _ =>
        Async.obeys_pure _)
      intro user
      apply Async.follows_statement_bind (fun _ => .verifying (normalizeEmail input.email))
        fun s => .verify
      intro s
      cases user with
      | none => exact refuseLogin_follows env input
      | some user =>
        apply Async.Follows.ite
        · intro _
          exact refuseLogin_follows env input
        · intro _
          exact acceptLogin_follows env input user

theorem authBody_follows (call : AuthCall) :
    (authBody env call).Follows LoginStep (fun _ _ => True) (entryPhase call) := by
  cases call with
  | login input => exact (login_follows env input).bind fun _ _ _ => .fulfilled trivial
  | mintDidSession linkedUserId =>
    exact follows_unthrottled_bind (mintDidSession_unthrottled env _) fun _ => .fulfilled trivial
  | oauthCallback info =>
    exact follows_unthrottled_bind (oauthCallback_unthrottled env _) fun _ => .fulfilled trivial
  | logout bearerToken cookieToken =>
    exact follows_unthrottled_bind (revokeAll_unthrottled env _) fun _ => .fulfilled trivial
  | revoke sessionToken =>
    exact follows_unthrottled_bind (revokePlatformSession_unthrottled env _) fun _ =>
      .fulfilled trivial
  | classify sessionToken =>
    exact follows_unthrottled_bind (classifyPlatformSession_unthrottled env _) fun _ =>
      .fulfilled trivial
  | authenticate sessionToken =>
    exact follows_unthrottled_bind (authenticateSession_unthrottled env _) fun _ =>
      .fulfilled trivial

end

/-! ### The account of one address -/

/-- The failures counted as long as the window or the block lasts. -/
def failuresInForce (key : String) (w : World) : ℕ :=
  match w.failuresByEmail key with
  | none => 0
  | some entry => if InForce entry w.now then entry.count else 0

structure SoundEntry (entry : ThrottleEntry) : Prop where
  count : 1 ≤ entry.count
  blockedUntil : ∀ t ∈ entry.blockedUntil, 0 < t

structure Account (s : World) (φ : ℕ → LoginPhase) (key : String) : Prop where
  admitted : ∃ n, InPhase φ (.admitted key) n ∧ admissions key s = verifications key s + n
  verifying : ∃ n, InPhase φ (.verifying key) n ∧ verifications key s = settlements key s + n
  budget : admissions key s + failuresInForce key s ≤ settlements key s + maxFailuresPerWindow
  later : ∀ entry, s.failuresByEmail key = some entry →
    laterVerifications key s + settlements key s + 1 ≤ verifications key s + entry.count
  entry : ∀ entry, s.failuresByEmail key = some entry → SoundEntry entry

def Accounts (s : World) (φ : ℕ → LoginPhase) : Prop := 0 ≤ s.now ∧ ∀ key, Account s φ key

variable {s t : World} {φ : ℕ → LoginPhase} {i : ℕ} {key email : String} {stage : LoginStage}

theorem countEvents_trail (p : LoginStage → Bool) :
    countEvents p key (trail email stage s) =
      countEvents p key s + if normalizeEmail email = key ∧ p stage = true then 1 else 0 := by
  simp [countEvents, trail, List.countP_append, List.countP_singleton]

theorem laterVerifications_trail : laterVerifications key (trail email stage s) =
    sinceFirstFailure key (laterVerifications key s)
      { key := normalizeEmail email, stage := stage } := by
  simp [laterVerifications, trail, List.foldl_append]

theorem Account.phases (h : Account s φ key) {x : LoginPhase} (hi : φ i ≠ .admitted key)
    (hi' : φ i ≠ .verifying key) (hx : x ≠ .admitted key) (hx' : x ≠ .verifying key) :
    Account s (Function.update φ i x) key := by
  obtain ⟨m, hm, hadmitted⟩ := h.admitted
  obtain ⟨n, hn, hverifying⟩ := h.verifying
  exact ⟨⟨m, hm.other hi hx, hadmitted⟩, ⟨n, hn.other hi' hx', hverifying⟩, h.budget, h.later,
    h.entry⟩

theorem Account.congr (h : Account s φ key) (htrail : ∀ p, countEvents p key t = countEvents p key s)
    (hlater : laterVerifications key t = laterVerifications key s)
    (hfailures : t.failuresByEmail key = s.failuresByEmail key) (hnow : t.now = s.now) :
    Account t φ key := by
  have hforce : failuresInForce key t = failuresInForce key s := by
    simp only [failuresInForce, hfailures, hnow]
  constructor
  · simpa only [admissions, verifications, htrail] using h.admitted
  · simpa only [verifications, settlements, htrail] using h.verifying
  · simpa only [admissions, settlements, htrail, hforce] using h.budget
  · simpa only [settlements, verifications, htrail, hlater, hfailures] using h.later
  · simpa only [hfailures] using h.entry

/-- What a login for another address notes. -/
theorem Account.trail_of_ne (h : Account s φ key) (hkey : normalizeEmail email ≠ key) :
    Account (trail email stage s) φ key := by
  apply h.congr
  · intro p
    simp [countEvents_trail, hkey]
  · simp [laterVerifications_trail, sinceFirstFailure, hkey]
  · rfl
  · rfl

theorem Account.failures_of_ne (h : Account s φ key) (hkey : normalizeEmail email ≠ key)
    {entry : Option ThrottleEntry} :
    Account { s with
      failuresByEmail := Function.update s.failuresByEmail (normalizeEmail email) entry } φ key := by
  apply h.congr
  · intro p
    rfl
  · rfl
  · exact Function.update_of_ne hkey.symm _ _
  · rfl

theorem failuresInForce_eq_windowFailures (h : Account s φ (normalizeEmail email))
    (hs : isLoginThrottled s.failuresByEmail email s.now = none) :
    failuresInForce (normalizeEmail email) s = windowFailures (normalizeEmail email) s := by
  unfold failuresInForce windowFailures
  cases hentry : s.failuresByEmail (normalizeEmail email) with
  | none => rfl
  | some entry =>
    have hblocked : ¬ ∃ t ∈ entry.blockedUntil, s.now < t := by
      rintro ⟨t, ht, hnow⟩
      have hpositive := (h.entry entry hentry).blockedUntil t ht
      have hne : t ≠ 0 := hpositive.ne'
      rw [Option.mem_def] at ht
      simp [isLoginThrottled, hentry, ht, hne, hnow] at hs
    simp only [InForce, hblocked, or_false]

section

variable {k : String} (hk : normalizeEmail email = k)

include hk

theorem admissions_trail : admissions k (trail email stage s) =
    admissions k s + if stage = .admitted then 1 else 0 := by
  simp [admissions, countEvents_trail, hk]

theorem verifications_trail : verifications k (trail email stage s) =
    verifications k s + if stage = .verifying then 1 else 0 := by
  simp [verifications, countEvents_trail, hk]

theorem settlements_trail : settlements k (trail email stage s) =
    settlements k s + if isSettled stage = true then 1 else 0 := by
  simp [settlements, countEvents_trail, hk]

end

theorem Account.letIn (h : Account s φ key) (hkey : normalizeEmail email = key)
    (hi : φ i = .arrived email) (hs : isLoginThrottled s.failuresByEmail email s.now = none)
    (hroom : outstanding key s + windowFailures key s < maxFailuresPerWindow) :
    Account (trail email .admitted s) (Function.update φ i (.admitted key)) key := by
  obtain ⟨m, hm, hadmitted⟩ := h.admitted
  obtain ⟨n, hn, hverifying⟩ := h.verifying
  have hA : admissions key (trail email .admitted s) = admissions key s + 1 := by
    simp [admissions_trail hkey]
  have hV : verifications key (trail email .admitted s) = verifications key s := by
    simp [verifications_trail hkey]
  have hS : settlements key (trail email .admitted s) = settlements key s := by
    simp [settlements_trail hkey, isSettled]
  have hL : laterVerifications key (trail email .admitted s) = laterVerifications key s := by
    simp [laterVerifications_trail, sinceFirstFailure]
  have hforce : failuresInForce key (trail email .admitted s) = failuresInForce key s := rfl
  subst hkey
  have hwindow := failuresInForce_eq_windowFailures h hs
  refine ⟨⟨m + 1, hm.enter (by simp [hi]), by omega⟩, ⟨n, hn.other (by simp [hi]) (by simp), by omega⟩,
    ?_, ?_, h.entry⟩
  · unfold outstanding at hroom
    omega
  · rw [hL, hV, hS]
    exact h.later

theorem Account.verify (h : Account s φ key) (hkey : normalizeEmail email = key)
    (hi : φ i = .admitted key) :
    Account (trail email .verifying s) (Function.update φ i (.verifying key)) key := by
  obtain ⟨m, hm, hadmitted⟩ := h.admitted
  obtain ⟨n, hn, hverifying⟩ := h.verifying
  have hA : admissions key (trail email .verifying s) = admissions key s := by
    simp [admissions_trail hkey]
  have hV : verifications key (trail email .verifying s) = verifications key s + 1 := by
    simp [verifications_trail hkey]
  have hS : settlements key (trail email .verifying s) = settlements key s := by
    simp [settlements_trail hkey, isSettled]
  have hL : laterVerifications key (trail email .verifying s) = laterVerifications key s + 1 := by
    simp [laterVerifications_trail, sinceFirstFailure, hkey]
  have hforce : failuresInForce key (trail email .verifying s) = failuresInForce key s := rfl
  obtain ⟨m', rfl, hm'⟩ := hm.leave hi (y := .verifying key) (by simp)
  refine ⟨⟨m', hm', by omega⟩, ⟨n + 1, hn.enter (by simp [hi]), by omega⟩, ?_, ?_, h.entry⟩
  · have hbudget := h.budget
    omega
  · intro entry hentry
    have hlater := h.later entry hentry
    omega

theorem Account.clear (h : Account s φ key) (hkey : normalizeEmail email = key)
    (hi : φ i = .verifying key) : Account (clearIn email s) (Function.update φ i .outside) key := by
  obtain ⟨m, hm, hadmitted⟩ := h.admitted
  obtain ⟨n, hn, hverifying⟩ := h.verifying
  have hA : admissions key (clearIn email s) = admissions key s :=
    (admissions_trail hkey).trans (by simp [admissions, countEvents])
  have hV : verifications key (clearIn email s) = verifications key s :=
    (verifications_trail hkey).trans (by simp [verifications, countEvents])
  have hS : settlements key (clearIn email s) = settlements key s + 1 :=
    (settlements_trail hkey).trans (by simp [settlements, countEvents, isSettled])
  have hnone : (clearIn email s).failuresByEmail key = none := by
    simp [clearIn, trail, clearLoginFailures, hkey]
  have hforce : failuresInForce key (clearIn email s) = 0 := by
    simp [failuresInForce, hnone]
  obtain ⟨n', rfl, hn'⟩ := hn.leave hi (y := .outside) (by simp)
  refine ⟨⟨m, hm.other (by simp [hi]) (by simp), by omega⟩, ⟨n', hn', by omega⟩, ?_, ?_, ?_⟩
  · have hbudget := h.budget
    omega
  · intro entry hentry
    simp [hnone] at hentry
  · intro entry hentry
    simp [hnone] at hentry

/-- A failure opens a window, or it is counted in the one that lasts. -/
theorem failedEntry_cases (existing : Option ThrottleEntry) (time : Time) :
    ((∀ entry ∈ existing, ¬ time - entry.windowStartedAt < windowMs) ∧ failedEntry existing time =
      { count := 1, windowStartedAt := time, blockedUntil := none }) ∨
    ∃ entry blockedUntil, existing = some entry ∧ time - entry.windowStartedAt < windowMs ∧
      (∀ t ∈ blockedUntil, t = time + windowMs ∨ t ∈ entry.blockedUntil) ∧
      failedEntry existing time =
        { entry with count := entry.count + 1, blockedUntil := blockedUntil } := by
  cases existing with
  | none => exact .inl ⟨by simp, rfl⟩
  | some entry =>
    by_cases hwindow : time - entry.windowStartedAt < windowMs
    · refine .inr ⟨entry, _, rfl, hwindow, ?_, if_neg (not_le.mpr hwindow)⟩
      intro t ht
      split at ht
      · exact .inl (Option.some.inj ht).symm
      · exact .inr ht
    · refine .inl ⟨?_, if_pos (not_lt.mp hwindow)⟩
      simpa using not_lt.mp hwindow

theorem Account.fail (h : Account s φ key) (hkey : normalizeEmail email = key) (hnow : 0 ≤ s.now)
    (hi : φ i = .verifying key) : Account (failIn email s) (Function.update φ i .outside) key := by
  obtain ⟨m, hm, hadmitted⟩ := h.admitted
  obtain ⟨n, hn, hverifying⟩ := h.verifying
  have hA : admissions key (failIn email s) = admissions key s :=
    (admissions_trail hkey).trans (by simp [admissions, countEvents])
  have hV : verifications key (failIn email s) = verifications key s :=
    (verifications_trail hkey).trans (by simp [verifications, countEvents])
  have hS : settlements key (failIn email s) = settlements key s + 1 :=
    (settlements_trail hkey).trans (by simp [settlements, countEvents, isSettled])
  have hentry : (failIn email s).failuresByEmail key =
      some (failedEntry (s.failuresByEmail key) s.now) := by
    simp [failIn, trail, recordLoginFailure, hkey]
  have hL : laterVerifications key (failIn email s) =
      if (failedEntry (s.failuresByEmail key) s.now).count = 1 then 0
      else laterVerifications key s := by
    rw [failIn, laterVerifications_trail]
    simp [sinceFirstFailure, hkey, laterVerifications]
  have hsame : (failIn email s).now = s.now := rfl
  obtain ⟨n', rfl, hn'⟩ := hn.leave hi (y := .outside) (by simp)
  have hbudget := h.budget
  obtain ⟨hexpired, hfresh⟩ | ⟨entry, blockedUntil, hexisting, hwindow, hblocked, hcounted⟩ :=
    failedEntry_cases (s.failuresByEmail key) s.now
  · have hforce : failuresInForce key (failIn email s) = 1 := by
      simp [failuresInForce, hentry, hfresh, InForce, hsame, windowMs]
    refine ⟨⟨m, hm.other (by simp [hi]) (by simp), by omega⟩, ⟨n', hn', by omega⟩, by omega, ?_, ?_⟩
    · intro entry he
      rw [hentry, hfresh, Option.some.injEq] at he
      subst he
      rw [hfresh] at hL
      simp only [if_true] at hL
      simp only
      omega
    · intro entry he
      rw [hentry, hfresh, Option.some.injEq] at he
      subst he
      exact ⟨le_refl _, by simp⟩
  · have hsound := h.entry entry hexisting
    have hold : failuresInForce key s = entry.count := by
      simp [failuresInForce, hexisting, InForce, hwindow]
    have hforce : failuresInForce key (failIn email s) = entry.count + 1 := by
      simp [failuresInForce, hentry, hcounted, InForce, hsame, hwindow]
    have hcount := hsound.count
    refine ⟨⟨m, hm.other (by simp [hi]) (by simp), by omega⟩, ⟨n', hn', by omega⟩, by omega, ?_, ?_⟩
    · intro entry' he
      rw [hentry, hcounted, Option.some.injEq] at he
      subst he
      rw [hcounted, if_neg (by simp; omega)] at hL
      have hlater := h.later entry hexisting
      simp only
      omega
    · intro entry' he
      rw [hentry, hcounted, Option.some.injEq] at he
      subst he
      refine ⟨by simp, fun t ht => ?_⟩
      obtain rfl | ht := hblocked t ht
      · exact Int.add_pos_of_nonneg_of_pos hnow (by decide)
      · exact hsound.blockedUntil t ht

/-! ### The runs -/

theorem Account.later_in_time (h : Account s φ key) (hfailures : t.failuresByEmail = s.failuresByEmail)
    (htrail : t.loginTrail = s.loginTrail) (hnow : s.now ≤ t.now) : Account t φ key := by
  have hcount : ∀ p, countEvents p key t = countEvents p key s := fun p => by
    simp only [countEvents, htrail]
  have hlater : laterVerifications key t = laterVerifications key s := by
    simp only [laterVerifications, htrail]
  have hforce : failuresInForce key t ≤ failuresInForce key s := by
    unfold failuresInForce
    rw [hfailures]
    cases s.failuresByEmail key with
    | none => rfl
    | some entry =>
      by_cases ht : InForce entry t.now
      · have hs : InForce entry s.now := by
          obtain hwindow | ⟨u, hu, hblocked⟩ := ht
          · exact .inl (lt_of_le_of_lt (sub_le_sub_right hnow _) hwindow)
          · exact .inr ⟨u, hu, lt_of_le_of_lt hnow hblocked⟩
        simp [ht, hs]
      · simp [ht]
  constructor
  · simpa only [admissions, verifications, hcount] using h.admitted
  · simpa only [verifications, settlements, hcount] using h.verifying
  · have hbudget := h.budget
    simp only [admissions, settlements, hcount] at hbudget ⊢
    omega
  · simpa only [settlements, verifications, hcount, hlater, hfailures] using h.later
  · simpa only [hfailures] using h.entry

theorem room_of_letIn {call : AuthCall} (h : RoomForGuess call s (trail email .admitted s)) :
    outstanding (normalizeEmail email) s + windowFailures (normalizeEmail email) s <
      maxFailuresPerWindow := by
  simpa [RoomForGuess, trail] using h

theorem accounts_step {call : AuthCall} {x : LoginPhase} (h : Accounts s φ)
    (hroom : RoomForGuess call s t) (hstep : LoginStep (φ i) s t x) :
    Accounts t (Function.update φ i x) := by
  obtain ⟨hnow, hall⟩ := h
  generalize hi : φ i = y at hstep
  cases hstep with
  | silent hfailures htrail hsame =>
    rw [← hi, Function.update_eq_self]
    exact ⟨hsame ▸ hnow, fun key => (hall key).later_in_time hfailures htrail hsame.ge⟩
  | refuse hs =>
    exact ⟨hnow, fun key => (hall key).phases (by simp [hi]) (by simp [hi]) (by simp) (by simp)⟩
  | @letIn email _ hs =>
    refine ⟨hnow, fun key => ?_⟩
    by_cases hkey : normalizeEmail email = key
    · subst hkey
      exact (hall _).letIn rfl hi hs (room_of_letIn hroom)
    · exact ((hall key).trail_of_ne hkey).phases (by simp [hi]) (by simp [hi]) (by simpa using hkey)
        (by simp)
  | @verify email _ =>
    refine ⟨hnow, fun key => ?_⟩
    by_cases hkey : normalizeEmail email = key
    · subst hkey
      exact (hall _).verify rfl hi
    · exact ((hall key).trail_of_ne hkey).phases (by simpa [hi] using hkey) (by simp [hi]) (by simp)
        (by simpa using hkey)
  | @fail email _ =>
    refine ⟨hnow, fun key => ?_⟩
    by_cases hkey : normalizeEmail email = key
    · subst hkey
      exact (hall _).fail rfl hnow hi
    · exact (((hall key).failures_of_ne hkey).trail_of_ne hkey).phases (by simp [hi])
        (by simpa [hi] using hkey) (by simp) (by simp)
  | @clear email _ =>
    refine ⟨hnow, fun key => ?_⟩
    by_cases hkey : normalizeEmail email = key
    · subst hkey
      exact (hall _).clear rfl hi
    · exact (((hall key).failures_of_ne hkey).trail_of_ne hkey).phases (by simp [hi])
        (by simpa [hi] using hkey) (by simp) (by simp)

theorem accounts_kept (env : AuthEnvironment) :
    (authSystem env).Keeps (System.Meets RoomForGuess) LoginStep entryPhase .outside Accounts where
  start := by
    intro s φ i call h hi
    refine ⟨h.1, fun key => (h.2 key).phases (by simp [hi]) (by simp [hi]) ?_ ?_⟩
    · cases call <;> simp [entryPhase]
    · cases call <;> simp [entryPhase]
  run := by
    intro c i call effect next φ x hroom hi h hstep
    exact accounts_step h (hroom call effect next hi) hstep
  interfere := by
    intro s t φ h hs
    exact ⟨hs.1.trans h.now, fun key =>
      (hs.2 key).later_in_time h.failuresByEmail h.loginTrail h.now⟩

theorem Accounts.bounded (h : Accounts s φ) : GuessesBounded s := by
  intro key entry hentry hforce
  have account := h.2 key
  obtain ⟨m, -, hadmitted⟩ := account.admitted
  have hbudget := account.budget
  have hlater := account.later entry hentry
  have hcount : failuresInForce key s = entry.count := by
    simp [failuresInForce, hentry, hforce]
  have hsettled : settlements key s ≤ verifications key s := by
    obtain ⟨n, -, hverifying⟩ := account.verifying
    omega
  constructor
  · omega
  · omega

/-- Nothing has been noted of any login yet. -/
def FreshThrottle (w : World) : Prop :=
  (∀ key, w.failuresByEmail key = none) ∧ w.loginTrail = []

theorem accounts_initial {w : World} (hw : FreshThrottle w) (hnow : 0 ≤ w.now) :
    Accounts w fun _ => .outside := by
  refine ⟨hnow, fun key => ⟨⟨0, .zero (by simp), ?_⟩, ⟨0, .zero (by simp), ?_⟩, ?_, ?_, ?_⟩⟩
  · simp [admissions, verifications, countEvents, hw.2]
  · simp [verifications, settlements, countEvents, hw.2]
  · simp [admissions, countEvents, hw.2, failuresInForce, hw.1]
  · intro entry hentry
    simp [hw.1] at hentry
  · intro entry hentry
    simp [hw.1] at hentry

/-- Where every login is let through while fewer than five are outstanding or counted, no more
passwords are tried than by one login after the other. -/
theorem guessesBounded (env : AuthEnvironment) {s₀ : World} (hnow : 0 ≤ s₀.now)
    (hs₀ : FreshThrottle s₀) {c : Config AuthCall World Error AuthReply}
    (hc : (authSystem env).Reach (System.Meets RoomForGuess) s₀ c) : GuessesBounded c.shared := by
  obtain ⟨φ, -, h⟩ := hc.phased (accounts_kept env) (R := fun _ _ _ => True) (authBody_follows env)
    (accounts_initial hs₀ hnow)
  exact h.bounded

def wrongGuess : AuthCall := .login { email := "eve@x.in", password := "password" }

def twoGuesses : Option (Config AuthCall World Error AuthReply) :=
  (authSystem sampleAuth).exec (System.Meets RoomForGuess) (Config.initial sampleUsers)
    (System.sequence 0 [(wrongGuess, 6), (wrongGuess, 6)])

/-- Two wrong passwords, one after the other. -/
theorem guessesBounded_sample : ∃ c : Config AuthCall World Error AuthReply,
    GuessesBounded c.shared ∧ windowFailures "eve@x.in" c.shared = 2 := by
  have hrun : twoGuesses.map (fun c => windowFailures "eve@x.in" c.shared) = some 2 := by rfl
  obtain ⟨c, hc, hfailures⟩ := Option.map_eq_some_iff.mp hrun
  have hreach := System.exec_reach (fun m hm => System.harmless_of_mem_sequence hm) hc
  exact ⟨c, guessesBounded sampleAuth (by decide) ⟨fun _ => rfl, rfl⟩ hreach, hfailures⟩

/-- Seven logins come in at once; one fails, then the others verify their passwords and fail. -/
def overlapping : List (Move AuthCall World) :=
  (List.range 7).map (.start · wrongGuess) ++ (List.range 7).map .run ++ (List.range 7).map .run ++
    [.run 0, .run 0] ++ [1, 2, 3, 4, 5, 6].map .run ++ [1, 2, 3, 4, 5, 6].map .run

def overlappingRun : Option (Config AuthCall World Error AuthReply) :=
  (authSystem sampleAuth).exec (fun _ _ => True) (Config.initial sampleUsers) overlapping

theorem not_guessesBounded : ∃ c entry, (authSystem sampleAuth).Reachable sampleUsers c ∧
    c.shared.failuresByEmail "eve@x.in" = some entry ∧ entry.blockedUntil.isSome ∧
      InForce entry c.shared.now ∧ laterVerifications "eve@x.in" c.shared = 6 := by
  have hrun : overlappingRun.map (fun c =>
      (c.shared.failuresByEmail "eve@x.in", c.shared.now, laterVerifications "eve@x.in" c.shared)) =
      some (some
        { count := 7, windowStartedAt := 1700000000000, blockedUntil := some 1700000900000 },
          1700000000000, 6) := by rfl
  obtain ⟨c, hc, hfacts⟩ := Option.map_eq_some_iff.mp hrun
  obtain ⟨hentry, hrest⟩ := Prod.mk.inj hfacts
  obtain ⟨hnow, hlater⟩ := Prod.mk.inj hrest
  refine ⟨c, _, System.exec_reach (System.harmless_of_all_ofCall (by rfl)) hc, hentry, rfl, ?_, hlater⟩
  rw [hnow]
  decide

end Sampraan.Auth
