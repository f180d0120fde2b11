import Sampraan.Auth.Login
import Sampraan.Governance.Actors
import Sampraan.Library.Phases

/-!
Whether a revoked session stays revoked. A token is made of its user, its name
and the second in which it expires, and the upsert that tracks a token revives
a revoked row of the same digest.
-/

namespace Sampraan.Auth

open Backend Library

/-! ### The phases of a call -/

/-- A call has signed a token that it may still track, or that it will not track any more. -/
inductive SessionPhase where
  | unsigned
  | signed (claims : SessionClaims)
  | issued (claims : SessionClaims)
  deriving DecidableEq

def SessionPhase.Carries (φ : SessionPhase) (claims : SessionClaims) : Prop :=
  φ = .signed claims ∨ φ = .issued claims

def tokenDigest (env : AuthEnvironment) (claims : SessionClaims) : String :=
  hashSessionToken env (signToken env claims)

inductive SessionStep (env : AuthEnvironment) : SessionPhase → World → World → SessionPhase → Prop
  | silent {φ s t} (hsessions : t.sessions = s.sessions)
    (hsigned : t.signedSessions = s.signedSessions) : SessionStep env φ s t φ
  | sign {s claims} :
    SessionStep env .unsigned s { s with signedSessions := s.signedSessions ++ [claims] }
      (.signed claims)
  | track {s claims input identityId} (hinput : input.sessionToken = signToken env claims) :
    SessionStep env (.signed claims) s (upsertSession env input identityId s) (.issued claims)
  | revoke {φ s token} : SessionStep env φ s (revokeIn env token s) φ

/-- The token that a call answers with is the one that it has signed. -/
def Answers (env : AuthEnvironment) (_ : AuthCall) (reply : AuthReply) (φ : SessionPhase) : Prop :=
  ∀ token, reply = .session (some token) → ∃ claims, φ.Carries claims ∧ token = signToken env claims

/-- The statement leaves the sessions alone. -/
structure Sessionless (s t : World) : Prop where
  sessions : t.sessions = s.sessions
  signedSessions : t.signedSessions = s.signedSessions

theorem Sessionless.refl (s : World) : Sessionless s s := ⟨rfl, rfl⟩

section

variable (env : AuthEnvironment)

theorem follows_sessionless_bind {α β : Type} {p : Promise α} {k : α → Promise β} {φ : SessionPhase}
    {R : β → SessionPhase → Prop} (hp : p.Obeys (fun _ => True) Sessionless)
    (hk : ∀ a, (k a).Follows (SessionStep env) R φ) : (p >>= k).Follows (SessionStep env) R φ :=
  hp.follows_bind (fun _ _ h => .silent h.sessions h.signedSessions) hk

variable {I : World → Prop}

theorem createAuditEvent_sessionless (event : AuditEventRow) :
    (createAuditEvent env.toEnvironment event).Obeys I Sessionless := by
  apply (Governance.createAuditEvent_audits env.toEnvironment event).mono
  rintro s _ ⟨rows, rfl⟩
  exact ⟨rfl, rfl⟩

theorem sessionIdentityId_sessionless (linkedUserId : ℕ) :
    (sessionIdentityId linkedUserId).Obeys I Sessionless := by
  apply (attempt_obeys Sessionless.refl Sessionless.refl).bind
  intro identity
  cases identity with
  | some identity => exact Async.obeys_pure _
  | none =>
    refine (attempt_obeys Sessionless.refl fun s => ?_).bind fun _ => Async.obeys_pure _
    dsimp only
    split
    · exact .refl s
    · exact ⟨rfl, rfl⟩

theorem upsertUser_sessionless (info : OAuthUserInfo) :
    (upsertUser env info).Obeys I Sessionless := by
  refine Async.Obeys.ite (Async.obeys_pure _) (attempt_obeys Sessionless.refl fun s => ?_)
  dsimp only [upsertUserIn]
  split
  · exact ⟨rfl, rfl⟩
  · exact ⟨rfl, rfl⟩

/-- The statement that may be rejected, in a call that then goes on. -/
theorem attempt_follows {α : Type} {f : World → α × World} {φ φ' : SessionPhase}
    {R : α → SessionPhase → Prop} (hf : ∀ s, SessionStep env φ s (f s).2 φ')
    (hR : ∀ a, R a φ') : (attempt f).Follows (SessionStep env) R φ := by
  apply Async.follows_statement_bind fun s => if s.databaseFails then φ else φ'
  · intro s
    by_cases hs : s.databaseFails
    · simp only [hs, if_true]
      exact .silent rfl rfl
    · simp only [hs]
      exact hf s
  · intro s
    by_cases hs : s.databaseFails
    · simp only [hs, if_true]
      exact .rejected _ _
    · simp only [hs]
      exact .fulfilled (hR _)

theorem SessionStep.carries {φ φ' : SessionPhase} {s t : World} {claims : SessionClaims}
    (hφ : φ.Carries claims) (h : SessionStep env φ s t φ') : φ'.Carries claims := by
  cases h with
  | silent => exact hφ
  | revoke => exact hφ
  | sign => simp [SessionPhase.Carries] at hφ
  | track =>
    obtain hsigned | hissued := hφ
    · cases hsigned
      exact .inr rfl
    · cases hissued

theorem storeSession_session {claims : SessionClaims} {input : TrackedSession}
    (hinput : input.sessionToken = signToken env claims) :
    (storeSession env input).Follows (SessionStep env) (fun _ φ => φ.Carries claims)
      (.signed claims) := by
  apply follows_sessionless_bind env (attempt_obeys Sessionless.refl Sessionless.refl)
  intro known
  apply Async.Follows.ite
  · intro _
    exact .fulfilled (.inl rfl)
  · intro _
    apply follows_sessionless_bind env (sessionIdentityId_sessionless input.linkedUserId)
    intro identityId
    exact attempt_follows env (fun s => .track hinput) fun _ => .inr rfl

theorem trackPlatformSession_session {claims : SessionClaims} {input : TrackedSession}
    (hinput : input.sessionToken = signToken env claims) :
    (trackPlatformSession env input).Follows (SessionStep env) (fun _ φ => φ.Carries claims)
      (.signed claims) := by
  apply Async.Follows.ite
  · intro _
    exact .fulfilled (.inl rfl)
  · intro _
    apply (storeSession_session env hinput).recover (S := fun φ => φ.Carries claims) (.inl rfl)
    · intro φ s t φ' hφ h
      exact h.carries env hφ
    · intro e φ hφ
      exact .fulfilled hφ

/-- The token that the call carries. -/
def Issues (token : String) (φ : SessionPhase) : Prop :=
  ∃ claims, φ.Carries claims ∧ token = signToken env claims

theorem issueSession_session (openId name : String) (linkedUserId : ℕ) :
    (issueSession env openId name linkedUserId).Follows (SessionStep env) (Issues env) .unsigned := by
  apply Async.follows_statement_bind
    (fun s => .signed (sessionClaims env openId name s.now)) fun s => .sign
  intro s
  apply follows_sessionless_bind env (Async.obeys_query Sessionless.refl)
  intro now
  apply (trackPlatformSession_session env rfl).bind
  intro _ φ hφ
  exact .fulfilled ⟨_, hφ, rfl⟩

theorem acceptLogin_session (input : LoginInput) (user : UserRow) :
    (acceptLogin env input user).Follows (SessionStep env) (Issues env) .unsigned := by
  apply follows_sessionless_bind env (Async.obeys_statement fun s _ => ⟨rfl, rfl⟩)
  intro _
  apply (issueSession_session env _ _ _).bind
  intro token φ hφ
  exact follows_sessionless_bind env (createAuditEvent_sessionless env _) fun _ => .fulfilled hφ

theorem checkThrottle_sessionless (email : String) :
    (checkThrottle email).Obeys I Sessionless := by
  refine Async.obeys_statement fun s _ => ?_
  dsimp only [admitIn]
  split
  · exact .refl s
  · exact ⟨rfl, rfl⟩

theorem refuseLogin_session (input : LoginInput) {φ : SessionPhase}
    {R : String → SessionPhase → Prop} :
    (refuseLogin env input : Promise String).Follows (SessionStep env) R φ := by
  apply follows_sessionless_bind env (Async.obeys_statement fun s _ => ⟨rfl, rfl⟩)
  intro _
  exact follows_sessionless_bind env (createAuditEvent_sessionless env _) fun _ => .rejected _ _

theorem login_session (input : LoginInput) :
    (login env input).Follows (SessionStep env) (Issues env) .unsigned := by
  apply follows_sessionless_bind env (checkThrottle_sessionless input.email)
  intro throttle
  cases throttle with
  | some throttle =>
    exact follows_sessionless_bind env (createAuditEvent_sessionless env _) fun _ => .rejected _ _
  | none =>
    have hlookup : (getUserByEmail env input.email).Obeys (fun _ => True) Sessionless :=
      .ite (Async.obeys_pure _) (attempt_obeys Sessionless.refl Sessionless.refl)
    apply follows_sessionless_bind env (hlookup.recover fun _ => Async.obeys_pure _)
    intro user
    apply follows_sessionless_bind env (Async.obeys_statement fun s _ => ⟨rfl, rfl⟩)
    intro authenticated
    cases user with
    | none => exact refuseLogin_session env input
    | some user =>
      apply Async.Follows.ite
      · intro _
        exact refuseLogin_session env input
      · intro _
        exact acceptLogin_session env input user

/-- For an answer that may hold no token. -/
def MayIssue (token : Option String) (φ : SessionPhase) : Prop := ∀ t ∈ token, Issues env t φ

theorem mayIssue_none {φ : SessionPhase} : MayIssue env none φ := fun _ h => by cases h

theorem mintDidSession_session (linkedUserId : ℕ) :
    (mintDidSession env linkedUserId).Follows (SessionStep env) (MayIssue env) .unsigned := by
  apply Async.Follows.ite
  · intro _
    exact .fulfilled (mayIssue_none env)
  · intro _
    apply follows_sessionless_bind env (attempt_obeys Sessionless.refl Sessionless.refl)
    intro user
    cases user with
    | none => exact .fulfilled (mayIssue_none env)
    | some user =>
      apply (issueSession_session env _ _ _).bind
      intro token φ hφ
      exact .fulfilled fun t ht => Option.some.inj ht ▸ hφ

theorem oauthCallback_session (info : OAuthUserInfo) :
    (oauthCallback env info).Follows (SessionStep env) (MayIssue env) .unsigned := by
  apply Async.Follows.ite
  · intro _
    exact .fulfilled (mayIssue_none env)
  · intro _
    refine Async.Follows.recover (S := fun _ => True) ?_ trivial (fun _ _ _ _ _ _ => trivial)
      fun e φ _ => .fulfilled (mayIssue_none env)
    apply follows_sessionless_bind env (upsertUser_sessionless env info)
    intro _
    apply Async.follows_statement_bind
      (fun s => .signed (sessionClaims env info.openId (info.name.getD "") s.now)) fun s => .sign
    intro s
    apply follows_sessionless_bind env (Async.Obeys.ite (Async.obeys_pure _)
      (attempt_obeys Sessionless.refl Sessionless.refl))
    intro user
    cases user with
    | none => exact .fulfilled fun t ht => Option.some.inj ht ▸ ⟨_, .inl rfl, rfl⟩
    | some user =>
      apply follows_sessionless_bind env (Async.obeys_query Sessionless.refl)
      intro now
      apply (trackPlatformSession_session env rfl).bind
      intro _ φ hφ
      exact .fulfilled fun t ht => Option.some.inj ht ▸ ⟨_, hφ, rfl⟩

theorem revokePlatformSession_session (token : String) {φ : SessionPhase} :
    (revokePlatformSession env token).Follows (SessionStep env) (fun _ φ' => φ' = φ) φ := by
  apply Async.Follows.ite
  · intro _
    exact .fulfilled rfl
  · intro _
    exact attempt_follows env (fun s => .revoke) fun _ => rfl

theorem revokeAll_session (tokens : List String) {φ : SessionPhase} :
    (revokeAll env tokens).Follows (SessionStep env) (fun _ _ => True) φ := by
  induction tokens generalizing φ with
  | nil => exact .fulfilled trivial
  | cons token tokens ih =>
    apply Async.Follows.bind (R := fun _ _ => True) _ fun _ _ _ => ih
    refine Async.Follows.recover (S := fun _ => True) ?_ trivial (fun _ _ _ _ _ _ => trivial)
      fun e φ _ => .fulfilled trivial
    exact (revokePlatformSession_session env token).bind fun _ _ _ => .fulfilled trivial

theorem authBody_session (call : AuthCall) :
    (authBody env call).Follows (SessionStep env) (Answers env call) .unsigned := by
  cases call with
  | login input =>
    apply (login_session env input).bind
    rintro token φ hφ
    exact .fulfilled fun t ht => by cases ht; exact hφ
  | mintDidSession linkedUserId =>
    apply (mintDidSession_session env linkedUserId).bind
    intro token φ hφ
    exact .fulfilled fun t ht => by cases ht; exact hφ t rfl
  | oauthCallback info =>
    apply (oauthCallback_session env info).bind
    intro token φ hφ
    exact .fulfilled fun t ht => by cases ht; exact hφ t rfl
  | logout bearerToken cookieToken =>
    exact (revokeAll_session env _).bind fun _ _ _ => .fulfilled fun t ht => by cases ht
  | revoke sessionToken =>
    exact (revokePlatformSession_session env _).bind fun _ _ _ => .fulfilled fun t ht => by cases ht
  | classify sessionToken =>
    have hclassify : (classifyPlatformSession env sessionToken).Obeys (fun _ => True) Sessionless :=
      .ite (Async.obeys_pure _) (attempt_obeys Sessionless.refl Sessionless.refl)
    exact follows_sessionless_bind env hclassify fun _ => .fulfilled fun t ht => by cases ht
  | authenticate sessionToken =>
    have hclassify : (classifyPlatformSession env (sessionToken.getD "")).Obeys (fun _ => True)
        Sessionless :=
      .ite (Async.obeys_pure _) (attempt_obeys Sessionless.refl Sessionless.refl)
    have hauthenticate : (authenticateSession env sessionToken).Obeys (fun _ => True) Sessionless := by
      apply (Async.obeys_query Sessionless.refl).bind
      intro session
      cases session with
      | none => exact Async.obeys_throw _
      | some session =>
        apply (hclassify.recover fun _ => Async.obeys_pure _).bind
        intro tracked
        cases tracked with
        | revoked => exact Async.obeys_throw _
        | expired => exact Async.obeys_throw _
        | untracked => exact Async.obeys_pure _
        | active identityId expiresAt => exact Async.obeys_pure _
    exact follows_sessionless_bind env hauthenticate fun _ => .fulfilled fun t ht => by cases ht

end

/-! ### Fresh tokens -/

/-- The statement signs no token for the user and the name of an earlier one that expires in the
same second. -/
def FreshSession (_ : AuthCall) (s t : World) : Prop :=
  match t.signedSessions.drop s.signedSessions.length with
  | [claims] => ∀ earlier ∈ s.signedSessions, earlier.openId = claims.openId →
      earlier.name = claims.name → earlier.exp ≠ claims.exp
  | _ => True

instance (call : AuthCall) (s t : World) : Decidable (FreshSession call s t) := by
  unfold FreshSession
  split
  · infer_instance
  · exact .isTrue trivial

/-- Every row tracks a token that has been signed, and none was signed twice. -/
structure SignedOnce (env : AuthEnvironment) (s : World) : Prop where
  nodup : s.signedSessions.Nodup
  signed : ∀ row ∈ s.sessions, ∃ claims ∈ s.signedSessions, row.sessionId = tokenDigest env claims

structure SessionAccount (env : AuthEnvironment) (s : World) (φ : ℕ → SessionPhase) : Prop
    extends SignedOnce env s where
  carried : ∀ i claims, (φ i).Carries claims → claims ∈ s.signedSessions
  distinct : ∀ i j claims, (φ i).Carries claims → (φ j).Carries claims → i = j
  untracked : ∀ i claims, φ i = .signed claims → ∀ row ∈ s.sessions,
    row.sessionId ≠ tokenDigest env claims

variable {env : AuthEnvironment} {s t : World} {φ : ℕ → SessionPhase} {i : ℕ}
  {claims : SessionClaims} {token : String}

theorem tokenDigest_injective (hsign : Function.Injective (env.jose.sign env.cookieSecret))
    (hsha256 : Function.Injective env.sha256.text) : Function.Injective (tokenDigest env) :=
  hsha256.comp hsign

theorem mem_revokeIn {row : SessionRow} (h : row ∈ (revokeIn env token s).sessions) :
    ∃ old ∈ s.sessions, old.sessionId = row.sessionId := by
  obtain ⟨old, hold, rfl⟩ := Table.mem_update.mp h
  refine ⟨old, hold, ?_⟩
  split
  · rfl
  · rfl

/-- The first tracking of a token is an insert. -/
theorem upsertSession_new {input : TrackedSession} {identityId : String}
    (h : ∀ row ∈ s.sessions, row.sessionId ≠ hashSessionToken env input.sessionToken) :
    (upsertSession env input identityId s).sessions =
      s.sessions ++ [newSession env input identityId] := by
  apply if_neg
  simpa using h

theorem SessionAccount.phases (h : SessionAccount env s φ) {x : SessionPhase}
    (hx : ∀ claims, x.Carries claims → (φ i).Carries claims)
    (hsigned : ∀ claims, x = .signed claims → φ i = .signed claims) :
    SessionAccount env s (Function.update φ i x) := by
  have hcarries : ∀ j claims, (Function.update φ i x j).Carries claims → (φ j).Carries claims := by
    intro j claims hj
    by_cases hji : j = i
    · subst hji
      rw [Function.update_self] at hj
      exact hx claims hj
    · rwa [Function.update_of_ne hji] at hj
  refine ⟨h.toSignedOnce, fun j claims hj => h.carried j claims (hcarries j claims hj),
    fun j k claims hj hk => h.distinct j k claims (hcarries j claims hj) (hcarries k claims hk), ?_⟩
  intro j claims hj
  by_cases hji : j = i
  · subst hji
    rw [Function.update_self] at hj
    exact h.untracked j claims (hsigned claims hj)
  · rw [Function.update_of_ne hji] at hj
    exact h.untracked j claims hj

theorem SessionAccount.same_sessions (h : SessionAccount env s φ) (hsessions : t.sessions = s.sessions)
    (hsigned : t.signedSessions = s.signedSessions) : SessionAccount env t φ := by
  refine ⟨⟨hsigned ▸ h.nodup, ?_⟩, ?_, h.distinct, ?_⟩
  · rw [hsessions, hsigned]
    exact h.signed
  · rw [hsigned]
    exact h.carried
  · rw [hsessions]
    exact h.untracked

theorem SessionAccount.sign (hdigest : Function.Injective (tokenDigest env))
    (h : SessionAccount env s φ) (hi : φ i = .unsigned) (hnew : claims ∉ s.signedSessions) :
    SessionAccount env { s with signedSessions := s.signedSessions ++ [claims] }
      (Function.update φ i (.signed claims)) := by
  have hself : ∀ claims', (SessionPhase.signed claims).Carries claims' → claims' = claims := by
    rintro claims' (heq | heq)
    · cases heq
      rfl
    · cases heq
  have hothers : ∀ j, (φ j).Carries claims → False := fun j hj => hnew (h.carried j claims hj)
  refine ⟨⟨?_, ?_⟩, ?_, ?_, ?_⟩
  · exact List.nodup_append.mpr ⟨h.nodup, List.nodup_singleton _, by
      rintro a ha b hb rfl
      exact hnew (List.mem_singleton.mp hb ▸ ha)⟩
  · intro row hrow
    obtain ⟨claims', hclaims', hid⟩ := h.signed row hrow
    exact ⟨claims', List.mem_append_left _ hclaims', hid⟩
  · intro j claims' hj
    by_cases hji : j = i
    · subst hji
      rw [Function.update_self] at hj
      simp [hself claims' hj]
    · rw [Function.update_of_ne hji] at hj
      exact List.mem_append_left _ (h.carried j claims' hj)
  · intro j k claims' hj hk
    by_cases hji : j = i
    · by_cases hki : k = i
      · rw [hji, hki]
      · subst hji
        rw [Function.update_self] at hj
        rw [Function.update_of_ne hki, hself claims' hj] at hk
        exact (hothers k hk).elim
    · by_cases hki : k = i
      · subst hki
        rw [Function.update_self] at hk
        rw [Function.update_of_ne hji, hself claims' hk] at hj
        exact (hothers j hj).elim
      · rw [Function.update_of_ne hji] at hj
        rw [Function.update_of_ne hki] at hk
        exact h.distinct j k claims' hj hk
  · intro j claims' hj row hrow
    by_cases hji : j = i
    · subst hji
      rw [Function.update_self] at hj
      cases hj
      intro hid
      obtain ⟨claims', hclaims', hid'⟩ := h.signed row hrow
      exact hnew (hdigest (hid.symm.trans hid') ▸ hclaims')
    · rw [Function.update_of_ne hji] at hj
      exact h.untracked j claims' hj row hrow

theorem SessionAccount.track (hdigest : Function.Injective (tokenDigest env))
    (h : SessionAccount env s φ) (hi : φ i = .signed claims) {input : TrackedSession}
    {identityId : String} (hinput : input.sessionToken = signToken env claims) :
    SessionAccount env (upsertSession env input identityId s)
      (Function.update φ i (.issued claims)) := by
  have hnone := h.untracked i claims hi
  have hsessions : (upsertSession env input identityId s).sessions =
      s.sessions ++ [newSession env input identityId] := by
    apply upsertSession_new
    rw [hinput]
    exact hnone
  have hid : (newSession env input identityId).sessionId = tokenDigest env claims := by
    simp [newSession, tokenDigest, hinput]
  have hphases : SessionAccount env s (Function.update φ i (.issued claims)) := by
    apply h.phases
    · rintro claims' (heq | heq)
      · cases heq
      · cases heq
        exact .inl hi
    · intro claims' heq
      cases heq
  refine ⟨⟨h.nodup, ?_⟩, hphases.carried, hphases.distinct, ?_⟩
  · rw [hsessions]
    intro row hrow
    rcases List.mem_append.mp hrow with hrow | hrow
    · exact h.signed row hrow
    · rw [List.mem_singleton.mp hrow]
      exact ⟨claims, h.carried i claims (.inl hi), hid⟩
  · rw [hsessions]
    intro j claims' hj row hrow
    rcases List.mem_append.mp hrow with hrow | hrow
    · exact hphases.untracked j claims' hj row hrow
    · rw [List.mem_singleton.mp hrow, hid]
      intro heq
      obtain rfl := hdigest heq
      have hsame := hphases.distinct j i claims (.inl hj) (.inr (by simp))
      subst hsame
      simp at hj

theorem SessionAccount.revoke (h : SessionAccount env s φ) :
    SessionAccount env (revokeIn env token s) φ := by
  refine ⟨⟨h.nodup, ?_⟩, h.carried, h.distinct, ?_⟩
  · intro row hrow
    obtain ⟨old, hold, hid⟩ := mem_revokeIn hrow
    exact hid ▸ h.signed old hold
  · intro j claims hj row hrow
    obtain ⟨old, hold, hid⟩ := mem_revokeIn hrow
    exact hid ▸ h.untracked j claims hj old hold

theorem notMem_of_fresh {call : AuthCall}
    (h : FreshSession call s { s with signedSessions := s.signedSessions ++ [claims] }) :
    claims ∉ s.signedSessions := by
  intro hmem
  have hfresh : ∀ earlier ∈ s.signedSessions, earlier.openId = claims.openId →
      earlier.name = claims.name → earlier.exp ≠ claims.exp := by
    simpa [FreshSession] using h
  exact hfresh claims hmem rfl rfl rfl

theorem sessionAccount_step (hdigest : Function.Injective (tokenDigest env)) {call : AuthCall}
    {x : SessionPhase} (h : SessionAccount env s φ) (hfresh : FreshSession call s t)
    (hstep : SessionStep env (φ i) s t x) : SessionAccount env t (Function.update φ i x) := by
  generalize hi : φ i = y at hstep
  cases hstep with
  | silent hsessions hsigned =>
    rw [← hi, Function.update_eq_self]
    exact h.same_sessions hsessions hsigned
  | sign => exact h.sign hdigest hi (notMem_of_fresh hfresh)
  | track hinput => exact h.track hdigest hi hinput
  | revoke =>
    rw [← hi, Function.update_eq_self]
    exact h.revoke

theorem sessionAccount_kept (hdigest : Function.Injective (tokenDigest env)) :
    (authSystem env).Keeps (System.Meets FreshSession) (SessionStep env) (fun _ => .unsigned)
      .unsigned (SessionAccount env) where
  start := by
    intro s φ i call h hi
    rwa [← hi, Function.update_eq_self]
  run := by
    intro c i call effect next φ x hfresh hi h hstep
    exact sessionAccount_step hdigest h (hfresh call effect next hi) hstep
  interfere := by
    intro s t φ h hs
    exact hs.same_sessions h.sessions h.signedSessions

theorem SignedOnce.account (h : SignedOnce env s) : SessionAccount env s fun _ => .unsigned := by
  have hnone : ∀ claims, ¬ SessionPhase.unsigned.Carries claims := by
    rintro claims (heq | heq)
    · cases heq
    · cases heq
  exact ⟨h, fun i claims hi => (hnone claims hi).elim, fun i j claims hi => (hnone claims hi).elim,
    fun i claims hi => by cases hi⟩

/-! ### Revoked tokens -/

theorem sessionState_revoked : sessionState env s token = .revoked ↔
    ∃ row, sessionRow env s token = some row ∧ row.revokedAt.isSome := by
  unfold sessionState
  cases sessionRow env s token with
  | none => simp
  | some row =>
    by_cases hrevoked : row.revokedAt.isSome
    · simp [hrevoked]
    · by_cases hexpired : row.expiresAt ≤ s.now
      · simp [hrevoked, hexpired]
      · simp [hrevoked, hexpired]

theorem revoked_same_sessions (hsessions : t.sessions = s.sessions)
    (h : sessionState env s token = .revoked) : sessionState env t token = .revoked := by
  rw [sessionState_revoked] at h ⊢
  simpa only [sessionRow, hsessions] using h

theorem sessionRow_revokeIn {other : String} : sessionRow env (revokeIn env other s) token =
    (sessionRow env s token).map fun r =>
      if isUnrevoked env other r then { r with revokedAt := some s.now } else r :=
  Table.find?_update_of_same fun _ => rfl

theorem revoked_revokeIn {other : String} (h : sessionState env s token = .revoked) :
    sessionState env (revokeIn env other s) token = .revoked := by
  rw [sessionState_revoked] at h ⊢
  obtain ⟨row, hrow, hrevoked⟩ := h
  rw [sessionRow_revokeIn, hrow]
  refine ⟨_, rfl, ?_⟩
  by_cases hmatch : isUnrevoked env other row
  · simp [hmatch]
  · simpa [hmatch] using hrevoked

/-- The rows of the token are all revoked by then. -/
theorem revoked_of_revokeIn (h : s.sessions.any (isUnrevoked env token) = true) :
    sessionState env (revokeIn env token s) token = .revoked := by
  obtain ⟨row, hrow, hmatch⟩ := List.any_eq_true.mp h
  rw [isUnrevoked, Bool.and_eq_true] at hmatch
  have hfound : ∃ row, sessionRow env s token = some row := by
    rw [← Option.isSome_iff_exists, sessionRow, List.find?_isSome]
    exact ⟨row, hrow, hmatch.1⟩
  obtain ⟨first, hfirst⟩ := hfound
  rw [sessionState_revoked, sessionRow_revokeIn, hfirst]
  refine ⟨_, rfl, ?_⟩
  by_cases hunrevoked : isUnrevoked env token first
  · simp [hunrevoked]
  · have hid : (first.sessionId == hashSessionToken env token) = true := by
      unfold sessionRow at hfirst
      have hfound := List.find?_some hfirst
      exact hfound
    rw [isUnrevoked, hid, Bool.true_and, Option.isNone_iff_eq_none] at hunrevoked
    simpa [isUnrevoked, hunrevoked] using Option.isSome_iff_ne_none.mpr hunrevoked

theorem revoked_track (h : SessionAccount env s φ) (hi : φ i = .signed claims)
    {input : TrackedSession} {identityId : String}
    (hinput : input.sessionToken = signToken env claims)
    (hrevoked : sessionState env s token = .revoked) :
    sessionState env (upsertSession env input identityId s) token = .revoked := by
  rw [sessionState_revoked] at hrevoked ⊢
  obtain ⟨row, hrow, hsome⟩ := hrevoked
  have hsessions : (upsertSession env input identityId s).sessions =
      s.sessions ++ [newSession env input identityId] := by
    apply upsertSession_new
    rw [hinput]
    exact h.untracked i claims hi
  refine ⟨row, ?_, hsome⟩
  unfold sessionRow at hrow ⊢
  rw [hsessions, List.find?_append, hrow]
  rfl

theorem revoked_step {x : SessionPhase} (h : SessionAccount env s φ)
    (hstep : SessionStep env (φ i) s t x) (hrevoked : sessionState env s token = .revoked) :
    sessionState env t token = .revoked := by
  generalize hi : φ i = y at hstep
  cases hstep with
  | silent hsessions _ => exact revoked_same_sessions hsessions hrevoked
  | sign => exact revoked_same_sessions rfl hrevoked
  | track hinput => exact revoked_track h hi hinput hrevoked
  | revoke => exact revoked_revokeIn hrevoked

/-- A revocation that answers `true` has run its statement. -/
theorem revoke_yields (token : String) : (revokePlatformSession env token).Yields
    (fun _ _ _ => True)
    (fun revoked h => revoked = true → ∃ e ∈ h, sessionState env e.2 token = .revoked) [] := by
  apply Async.Yields.ite
  · intro _
    exact .fulfilled fun h => by cases h
  · intro _
    apply Async.yields_statement_bind (fun _ => trivial)
    intro s
    by_cases hs : s.databaseFails
    · simp only [hs, if_true]
      exact .rejected _ _
    · simp only [hs]
      exact .fulfilled fun hrevoked =>
        ⟨(s, revokeIn env token s), by simp, revoked_of_revokeIn hrevoked⟩

theorem authBody_yields (call : AuthCall) : (authBody env call).Yields (fun _ _ _ => True)
    (fun reply h => ∀ token, call = .revoke token → reply = .revoked true →
      ∃ e ∈ h, sessionState env e.2 token = .revoked) [] := by
  cases call with
  | revoke token =>
    apply (revoke_yields token).bind
    intro revoked h hrevoked
    refine .fulfilled ?_
    rintro _ ⟨rfl⟩ ⟨rfl⟩
    exact hrevoked rfl
  | _ => exact (Async.yields_trivial _ _).weaken fun _ _ _ token htoken => by cases htoken

theorem classifyPlatformSession_run (hdb : env.databaseConfigured = true)
    (havailable : s.databaseFails = false) :
    (classifyPlatformSession env token).run s = (.ok (sessionState env s token), s) := by
  have hattempt : (attempt fun w => (sessionState env w token, w)).run s =
      (.ok (sessionState env s token), s) := by
    unfold attempt
    rw [Async.run_bind_ok (Async.run_statement _ _)]
    simp [havailable]
  simpa [classifyPlatformSession, hdb] using hattempt

/-- No request gets past the gate with a revoked token. -/
theorem authenticateSession_revoked (hdb : env.databaseConfigured = true)
    (havailable : s.databaseFails = false) (hrevoked : sessionState env s token = .revoked) :
    ∃ error, ((authenticateSession env (some token)).run s).1 = .error error := by
  unfold authenticateSession
  rw [Async.run_bind_ok (Async.run_query _ _)]
  cases verifySession env (some token) s.now with
  | none => exact ⟨_, rfl⟩
  | some session =>
    have hclassify : (classifyPlatformSession env token).run s = (.ok .revoked, s) := by
      rw [classifyPlatformSession_run hdb havailable, hrevoked]
    refine ⟨.trpc .forbidden "Session was revoked", ?_⟩
    exact congrArg Prod.fst (Async.run_bind_ok (Async.run_recover_ok hclassify))

/-! ### The runs -/

/-- A token that was revoked stays so, no request gets past the gate with it, and no two calls
issue the same token. -/
structure RevocationPermanent (env : AuthEnvironment)
    (c : Config AuthCall World Error AuthReply) : Prop where
  stays : ∀ e ∈ c.log, ∀ token, sessionState env e.2.2 token = .revoked →
    sessionState env c.shared token = .revoked
  revoked : ∀ i token, c.Returned i (.revoke token) (.revoked true) →
    sessionState env c.shared token = .revoked
  refused : ∀ i token, c.Returned i (.revoke token) (.revoked true) → env.databaseConfigured = true →
    c.shared.databaseFails = false →
      ∃ error, ((authenticateSession env (some token)).run c.shared).1 = .error error
  distinct : ∀ i j call call' token, i ≠ j → c.Returned i call (.session (some token)) →
    ¬ c.Returned j call' (.session (some token))

theorem revocationPermanent (env : AuthEnvironment)
    (hsign : Function.Injective (env.jose.sign env.cookieSecret))
    (hsha256 : Function.Injective env.sha256.text) {s₀ : World} (hs₀ : SignedOnce env s₀)
    {c : Config AuthCall World Error AuthReply}
    (hc : (authSystem env).Reach (System.Meets FreshSession) s₀ c) : RevocationPermanent env c := by
  have kept := sessionAccount_kept (tokenDigest_injective hsign hsha256)
  obtain ⟨φ, hphased, haccount⟩ := hc.phased kept (authBody_session env) hs₀.account
  have hstays : ∀ e ∈ c.log, ∀ token, sessionState env e.2.2 token = .revoked →
      sessionState env c.shared token = .revoked := by
    intro e he token hrevoked
    apply hc.phased_persists kept (authBody_session env) hs₀.account
      (G := fun s => sessionState env s token = .revoked) _ _ e he hrevoked
    · intro s t φ i x h hstep
      exact revoked_step h hstep
    · intro s t h
      exact revoked_same_sessions h.sessions
  have hrevoked : ∀ i token, c.Returned i (.revoke token) (.revoked true) →
      sessionState env c.shared token = .revoked := by
    intro i token hi
    obtain ⟨e, he, hrevoked⟩ := hc.returned authBody_yields hi token rfl rfl
    exact hstays (i, e) (Config.mem_history.mp he) token hrevoked
  refine ⟨hstays, hrevoked, fun i token hi hdb havailable =>
    authenticateSession_revoked hdb havailable (hrevoked i token hi), ?_⟩
  intro i j call call' token hij hi hj
  obtain ⟨claims, hclaims, htoken⟩ := hphased.returned hi token rfl
  obtain ⟨claims', hclaims', htoken'⟩ := hphased.returned hj token rfl
  obtain rfl := hsign (htoken.symm.trans htoken')
  exact hij (haccount.distinct i j claims hclaims hclaims')

/-! ### A sample run -/

theorem marked_append_inj {a b : List Char} {x y : List Char}
    (h : a.flatMap (fun c => [c, c]) ++ 'a' :: 'b' :: x = b.flatMap (fun c => [c, c]) ++ 'a' :: 'b' :: y) :
    a = b ∧ x = y := by
  induction a generalizing b with
  | nil =>
    cases b with
    | nil => simpa using h
    | cons c b =>
      simp only [List.flatMap_nil, List.flatMap_cons, List.cons_append, List.nil_append,
        List.cons.injEq] at h
      obtain ⟨hfirst, hsecond, -⟩ := h
      exact absurd (hfirst.trans hsecond.symm) (by decide)
  | cons c a ih =>
    cases b with
    | nil =>
      simp only [List.flatMap_nil, List.flatMap_cons, List.cons_append, List.nil_append,
        List.cons.injEq] at h
      obtain ⟨hfirst, hsecond, -⟩ := h
      exact absurd (hfirst.symm.trans hsecond) (by decide)
    | cons d b =>
      simp only [List.flatMap_cons, List.cons_append, List.nil_append, List.cons.injEq] at h
      obtain ⟨rfl, -, hrest⟩ := h
      obtain ⟨rfl, hxy⟩ := ih hrest
      exact ⟨rfl, hxy⟩

theorem sampleToken_injective : Function.Injective sampleToken := by
  intro claims claims' h
  have hchars := congrArg String.toList h
  simp only [sampleToken, marked, String.toList_ofList, List.append_assoc, List.cons_append,
    List.nil_append] at hchars
  obtain ⟨hopenId, hrest⟩ := marked_append_inj hchars
  obtain ⟨happId, hrest⟩ := marked_append_inj hrest
  obtain ⟨hname, hrest⟩ := marked_append_inj hrest
  obtain ⟨hnegative, hdigits⟩ := List.cons.inj hrest
  have habs : claims.exp.natAbs = claims'.exp.natAbs := by
    rw [← Decimal.foldl_toDigits claims.exp.natAbs, hdigits, Decimal.foldl_toDigits]
  have hexp : claims.exp = claims'.exp := by
    split at hnegative
    · split at hnegative
      · omega
      · cases hnegative
    · split at hnegative
      · cases hnegative
      · omega
  cases claims
  cases claims'
  simp only [SessionClaims.mk.injEq]
  exact ⟨String.toList_inj.mp hopenId, String.toList_inj.mp happId, String.toList_inj.mp hname, hexp⟩

def eveLogin : AuthCall := .login { email := "eve@x.in", password := "correct horse" }

def eveToken : String :=
  sampleToken { openId := "eve", appId := "", name := "Eve", exp := 1700604800 }

def revokedLogin : Option (Config AuthCall World Error AuthReply) :=
  (authSystem sampleAuth).exec (System.Meets FreshSession) (Config.initial sampleUsers)
    (System.sequence 0 [(eveLogin, 11), (.revoke eveToken, 1)])

theorem sampleUsers_signedOnce : SignedOnce sampleAuth sampleUsers :=
  ⟨List.nodup_nil, fun row hrow => by simp [sampleUsers, sampleWorld] at hrow⟩

theorem revocationPermanent_sample : ∃ c : Config AuthCall World Error AuthReply,
    RevocationPermanent sampleAuth c ∧ sessionState sampleAuth c.shared eveToken = .revoked := by
  have hrun : revokedLogin.map (fun c => sessionState sampleAuth c.shared eveToken) =
      some .revoked := by rfl
  obtain ⟨c, hc, hstate⟩ := Option.map_eq_some_iff.mp hrun
  have hreach := System.exec_reach (fun m hm => System.harmless_of_mem_sequence hm) hc
  exact ⟨c, revocationPermanent sampleAuth sampleToken_injective Function.injective_id
    sampleUsers_signedOnce hreach, hstate⟩

/-- The user logs in, the session is revoked, and the user logs in again within the second. -/
def secondLogin : Option (Config AuthCall World Error AuthReply) :=
  (authSystem sampleAuth).exec (fun _ _ => True) (Config.initial sampleUsers)
    (System.sequence 0 [(eveLogin, 11), (.revoke eveToken, 1), (eveLogin, 11)])

def replyOf (c : Config AuthCall World Error AuthReply) (i : ℕ) : Option (AuthCall × AuthReply) :=
  match c.threads i with
  | some ⟨call, .fulfilled reply⟩ => some (call, reply)
  | _ => none

theorem returned_of_replyOf {c : Config AuthCall World Error AuthReply} {i : ℕ} {call : AuthCall}
    {reply : AuthReply} (h : replyOf c i = some (call, reply)) : c.Returned i call reply := by
  unfold replyOf at h
  split at h
  · rename_i hthread
    cases h
    exact hthread
  · cases h

theorem not_revocationPermanent : ∃ c, (authSystem sampleAuth).Reachable sampleUsers c ∧
    c.Returned 1 (.revoke eveToken) (.revoked true) ∧
      sessionState sampleAuth c.shared eveToken = .active "holder" 1700604800000 ∧
      c.Returned 0 eveLogin (.session (some eveToken)) ∧
      c.Returned 2 eveLogin (.session (some eveToken)) := by
  have hrun : secondLogin.map (fun c =>
      (replyOf c 1, sessionState sampleAuth c.shared eveToken, replyOf c 0, replyOf c 2)) =
      some (some (.revoke eveToken, .revoked true), .active "holder" 1700604800000,
        some (eveLogin, .session (some eveToken)), some (eveLogin, .session (some eveToken))) := by
    rfl
  obtain ⟨c, hc, hfacts⟩ := Option.map_eq_some_iff.mp hrun
  simp only [Prod.mk.injEq] at hfacts
  obtain ⟨hrevoke, hstate, hfirst, hsecond⟩ := hfacts
  exact ⟨c, System.exec_reach (fun m hm => System.harmless_of_mem_sequence hm) hc,
    returned_of_replyOf hrevoke, hstate, returned_of_replyOf hfirst, returned_of_replyOf hsecond⟩

end Sampraan.Auth
