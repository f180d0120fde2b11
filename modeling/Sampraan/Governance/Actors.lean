import Sampraan.Governance.Router
import Sampraan.Library.Recall

/-!
The acting identity and its target, as the later statements of a call recall
them: where the call has read them, and which checks they have passed.
-/

namespace Sampraan.Governance

open Backend Library CryptoAssurance

/-! ### Reads and audit rows -/

/-- The statement reads, or it appends to the audit trail. -/
def Audits (s t : World) : Prop := ∃ rows, t = { s with auditEvents := s.auditEvents ++ rows }

theorem Audits.refl (s : World) : Audits s s := ⟨[], by simp⟩

section

variable (env : Environment) {I : World → Prop}

theorem createAuditEvent_audits (event : AuditEventRow) :
    (createAuditEvent env event).Obeys I Audits := by
  apply Async.Obeys.ite
  · apply Async.Obeys.bind
    · exact Async.obeys_statement fun s _ => ⟨[event], rfl⟩
    · intro _
      exact Async.obeys_query Audits.refl
  · exact Async.obeys_pure _

theorem audit_audits (actor action resourceType resourceId : String) (decision : AuditDecision)
    (reason : String) : (audit env actor action resourceType resourceId decision reason).Obeys I Audits :=
  createAuditEvent_audits env _

theorem getIdentityByLinkedUserId_audits (id : ℕ) :
    (getIdentityByLinkedUserId env id).Obeys I Audits :=
  .ite (Async.obeys_pure _) (Async.obeys_query Audits.refl)

theorem getIdentityRoles_audits (id : String) : (getIdentityRoles env id).Obeys I Audits :=
  .ite (Async.obeys_pure _) (Async.obeys_query Audits.refl)

theorem requireActor_audits (user : Option ℕ) : (requireActor env user).Obeys I Audits := by
  cases user with
  | none => exact Async.obeys_throw _
  | some id =>
    apply (getIdentityByLinkedUserId_audits env id).bind
    intro identity
    cases identity with
    | none => exact Async.obeys_throw _
    | some identity =>
      apply Async.Obeys.ite (Async.obeys_throw _)
      exact (getIdentityRoles_audits env _).bind fun _ => Async.obeys_pure _

theorem persistAnchorAudit_audits (resourceId : String) (result : AnchorResult) :
    (persistAnchorAudit env resourceId result).Obeys I Audits :=
  createAuditEvent_audits env _

theorem resolveOnChainWallet_audits (besu : BesuConfig) (did displayName : String) :
    (resolveOnChainWallet env besu did displayName).Obeys I Audits := by
  apply Async.Obeys.ite
  · exact Async.obeys_throw _
  · exact (persistAnchorAudit_audits env _ _).bind fun _ => Async.obeys_pure _

end

/-! ### Targets -/

variable (env : Environment)

def rolesOf (w : World) (identityId : String) : List String :=
  (w.identityRoles.filter (·.identityId == identityId)).map IdentityRoleRow.roleName

/-- `requireIdentityByDid` with the roles that it attaches to the row. -/
def requireTarget (targetDid : String) : Promise Actor :=
  if !env.databaseConfigured then throw (.trpc .internalServerError "Database unavailable")
  else do
    match ← Async.query fun w => w.identities.find? (·.did == targetDid) with
    | none => throw (.trpc .notFound "Target identity not found")
    | some identity => do
      let roles ← getIdentityRoles env identity.id
      pure { identity := identity, roles := roles }

def effectiveScope (identity : IdentityRow) : String := identity.scope.getD identity.organization

def assertScopedManager (actor target : Actor) (what : String) : Promise Unit :=
  if hasRole actor "ADMIN" then pure ()
  else if !hasRole actor "MANAGER" then throw (.trpc .forbidden s!"{what} requires ADMIN or MANAGER")
  else if !target.roles.all (· == "USER") then
    throw (.trpc .forbidden s!"{what}: managers may only manage USER identities")
  else if target.identity.id = actor.identity.id then
    throw (.trpc .forbidden s!"{what}: self-assignment is not permitted")
  else if effectiveScope actor.identity = "" ∨
      effectiveScope target.identity ≠ effectiveScope actor.identity then
    throw (.trpc .forbidden s!"{what}: identity is outside your scope")
  else pure ()

/-! ### What a call has read -/

structure RolesRead (h : List (World × World)) (actor : Actor) : Prop where
  roles : ∃ e ∈ h, actor.roles = rolesOf e.1 actor.identity.id

structure ActorRead (user : Option ℕ) (h : List (World × World)) (actor : Actor) : Prop
    extends RolesRead h actor where
  identity : ∃ e ∈ h, ∃ id, user = some id ∧
    e.1.identities.find? (·.linkedUserId == some id) = some actor.identity
  verified : actor.identity.lifecycleState = .verified
  active : actor.identity.status = .active

structure TargetRead (did : String) (h : List (World × World)) (target : Actor) : Prop
    extends RolesRead h target where
  identity : ∃ e ∈ h, e.1.identities.find? (·.did == did) = some target.identity

/-- The manager may act on the target, by `assertScopedManager`. -/
def InScope (actor target : Actor) : Prop :=
  hasRole actor "ADMIN" = true ∨ hasRole actor "MANAGER" = true ∧
    (∀ r ∈ target.roles, r = "USER") ∧ target.identity.id ≠ actor.identity.id ∧
      effectiveScope actor.identity ≠ "" ∧
        effectiveScope target.identity = effectiveScope actor.identity

variable {env} {user : Option ℕ} {did : String} {h h' : List (World × World)} {actor target : Actor}
  {α : Type} {Q : List (World × World) → World → World → Prop}
  {R : α → List (World × World) → Prop}

theorem RolesRead.mono (ha : RolesRead h actor) (hh : h ⊆ h') : RolesRead h' actor := by
  obtain ⟨e, he, hr⟩ := ha.roles
  exact ⟨e, hh he, hr⟩

theorem ActorRead.mono (ha : ActorRead user h actor) (hh : h ⊆ h') : ActorRead user h' actor := by
  obtain ⟨e, he, hf⟩ := ha.identity
  exact ⟨ha.toRolesRead.mono hh, ⟨e, hh he, hf⟩, ha.verified, ha.active⟩

theorem TargetRead.mono (ht : TargetRead did h target) (hh : h ⊆ h') :
    TargetRead did h' target := by
  obtain ⟨e, he, hf⟩ := ht.identity
  exact ⟨ht.toRolesRead.mono hh, e, hh he, hf⟩

section

variable (hq : ∀ h s t, Audits s t → Q h s t)

include hq

theorem audit_recalls {k : Unit → Promise α} {p : Promise Unit}
    (hp : p.Obeys (fun _ => True) Audits) (hk : ∀ h', h ⊆ h' → (k ()).Yields Q R h') :
    (p >>= k).Yields Q R h :=
  (hp.recalls hq h).bind fun _ => hk

theorem query_recalls {β : Type} {f : World → β} {k : β → Promise α}
    (hk : ∀ s, (k (f s)).Yields Q R (h ++ [(s, s)])) : (Async.query f >>= k).Yields Q R h :=
  Async.yields_query_bind (fun s => hq h s s (Audits.refl s)) hk

/-- The reads of `db.ts`, which give a default without a database. -/
theorem read_recalls {β : Type} {f : World → β} {default : β} {k : β → Promise α}
    (hdefault : (k default).Yields Q R h) (hk : ∀ s, (k (f s)).Yields Q R (h ++ [(s, s)])) :
    ((if !env.databaseConfigured then pure default else Async.query f) >>= k).Yields Q R h := by
  split
  · exact hdefault
  · exact query_recalls hq hk

/-- A read of one row: what the call does next knows the row that was found. -/
theorem found_recalls {β : Type} {p : Promise (Option β)} {f : World → Option β}
    {k : Option β → Promise α}
    (hp : p = if !env.databaseConfigured then pure none else Async.query f)
    (hnone : ∀ h', (k none).Yields Q R h')
    (hk : ∀ s b, f s = some b → (k (some b)).Yields Q R (h ++ [(s, s)])) : (p >>= k).Yields Q R h := by
  rw [hp]
  apply read_recalls hq (hnone h)
  intro s
  cases hf : f s with
  | none => exact hnone _
  | some b => exact hk s b hf

theorem getIdentityRoles_recalls {identityId : String} {k : List String → Promise α}
    (hdb : env.databaseConfigured = true)
    (hk : ∀ s, (k (rolesOf s identityId)).Yields Q R (h ++ [(s, s)])) :
    (getIdentityRoles env identityId >>= k).Yields Q R h := by
  simp only [getIdentityRoles, hdb, Bool.not_true, if_neg Bool.false_ne_true]
  exact query_recalls hq hk

theorem requireActor_recalls {k : Actor → Promise α}
    (hk : ∀ actor h', h ⊆ h' → ActorRead user h' actor → env.databaseConfigured = true →
      (k actor).Yields Q R h') : (requireActor env user >>= k).Yields Q R h := by
  cases user with
  | none => exact .rejected _ _
  | some id =>
    unfold requireActor
    by_cases hdb : env.databaseConfigured = true
    · simp only [getIdentityByLinkedUserId, hdb, Bool.not_true, if_neg Bool.false_ne_true]
      rw [Async.bind_assoc]
      apply query_recalls hq
      intro s
      cases hf : s.identities.find? (·.linkedUserId == some id) with
      | none => exact .rejected _ _
      | some identity =>
        dsimp only
        split
        · exact .rejected _ _
        · rename_i hstate
          obtain ⟨hverified, hactive⟩ := not_or.mp hstate
          rw [Async.bind_assoc]
          apply getIdentityRoles_recalls hq hdb
          intro s'
          apply hk _ _ _ _ hdb
          · simp
          · exact ⟨⟨(s', s'), by simp, rfl⟩, ⟨(s, s), by simp, id, rfl, hf⟩,
              not_not.mp hverified, not_not.mp hactive⟩
    · simp only [getIdentityByLinkedUserId, hdb, Bool.not_false, if_true]
      exact .rejected _ _

theorem requireTarget_recalls {k : Actor → Promise α}
    (hk : ∀ target h', h ⊆ h' → TargetRead did h' target → (k target).Yields Q R h') :
    (requireTarget env did >>= k).Yields Q R h := by
  unfold requireTarget
  by_cases hdb : env.databaseConfigured = true
  · simp only [hdb, Bool.not_true, if_neg Bool.false_ne_true]
    rw [Async.bind_assoc]
    apply query_recalls hq
    intro s
    cases hf : s.identities.find? (·.did == did) with
    | none => exact .rejected _ _
    | some identity =>
      dsimp only
      rw [Async.bind_assoc]
      apply getIdentityRoles_recalls hq hdb
      intro s'
      apply hk
      · simp
      · exact ⟨⟨(s', s'), by simp, rfl⟩, (s, s), by simp, hf⟩
  · simp only [hdb, Bool.not_false, if_true]
    exact .rejected _ _

end

theorem insert_eq (f : World → Option World) :
    insert f = .pending (fun w => (f w).getD w) fun w =>
      match f w with
      | some _ => .fulfilled ()
      | none => .rejected (.other "Duplicate entry") := by
  simp only [Backend.insert, Async.statement_bind, Async.pending.injEq]
  constructor <;> funext w <;> cases f w <;> rfl

theorem insert_recalls {f : World → Option World} (hsame : ∀ s, Q h s s)
    (hw : ∀ s t, f s = some t → Q h s t) : (insert f).Recalls Q h := by
  rw [insert_eq]
  refine .pending (fun s => ?_) fun s => ?_
  · cases hs : f s with
    | none => exact hsame s
    | some t => exact hw s t hs
  · cases f s with
    | none => exact .rejected _ _
    | some t => exact .fulfilled trivial

theorem assertAdmin_recalls {what : String} {k : Unit → Promise α}
    (hk : hasRole actor "ADMIN" = true → (k ()).Yields Q R h) :
    (assertAdmin actor what >>= k).Yields Q R h := by
  unfold assertAdmin
  split
  · exact hk ‹_›
  · exact .rejected _ _

theorem assertScopedManager_recalls {what : String} {k : Unit → Promise α}
    (hk : InScope actor target → (k ()).Yields Q R h) :
    (assertScopedManager actor target what >>= k).Yields Q R h := by
  unfold assertScopedManager
  by_cases hadmin : hasRole actor "ADMIN" = true
  · rw [if_pos hadmin]
    exact hk (.inl hadmin)
  rw [if_neg hadmin]
  split
  · exact .rejected _ _
  · rename_i hmanager
    split
    · exact .rejected _ _
    · rename_i husers
      split
      · exact .rejected _ _
      · rename_i hself
        split
        · exact .rejected _ _
        · rename_i hscope
          obtain ⟨hset, hsame⟩ := not_or.mp hscope
          exact hk (.inr ⟨by simpa using hmanager, by simpa using husers, hself, hset,
            not_not.mp hsame⟩)

theorem resolveOnChainWallet_recalls (hq : ∀ h s t, Audits s t → Q h s t) {besu : BesuConfig}
    {targetDid displayName : String} {k : String → Promise α}
    (hk : ∀ h', h ⊆ h' →
      (k (deriveIdentityWallet env (besu.privateKey.getD "") targetDid)).Yields Q R h') :
    (resolveOnChainWallet env besu targetDid displayName >>= k).Yields Q R h := by
  unfold resolveOnChainWallet
  by_cases hkey : besu.privateKey.getD "" = ""
  · simp only [hkey, if_true]
    exact .rejected _ _
  · simp only [if_neg hkey]
    rw [Async.bind_assoc]
    exact audit_recalls hq (persistAnchorAudit_audits env _ _) hk

theorem guard_recalls {c : Prop} [Decidable c] {e : Error} {k : Promise α}
    (hk : ¬ c → k.Yields Q R h) : (if c then throw e else k).Yields Q R h :=
  .ite (fun _ => .rejected _ _) hk

end Sampraan.Governance
