import Sampraan.Identities.Router

/-!
The administration of identities, from both routers, as one system: which rows
each statement of each procedure writes, and what its call had read by then.
-/

namespace Sampraan.Identities

open Backend Library Governance
open CryptoAssurance (Actor)

/-! ### What leaves the identities alone -/

structure KeepsIdentities (s t : World) : Prop where
  identities : t.identities = s.identities
  identityRoles : t.identityRoles = s.identityRoles
  roles : t.roles = s.roles

/-- The step appends to the audit trail or writes the DID records. -/
def Bookkeeps (s t : World) : Prop :=
  ∃ rows didRecords,
    t = { s with auditEvents := s.auditEvents ++ rows, didRecords := didRecords }

theorem Bookkeeps.refl (s : World) : Bookkeeps s s := ⟨[], s.didRecords, by simp⟩

theorem Bookkeeps.of_audits {s t : World} (h : Audits s t) : Bookkeeps s t := by
  obtain ⟨rows, rfl⟩ := h
  exact ⟨rows, s.didRecords, rfl⟩

theorem bookkeeps_didRecords (s : World) (didRecords : List DidRecordRow) :
    Bookkeeps s { s with didRecords := didRecords } :=
  ⟨[], didRecords, by simp⟩

theorem Bookkeeps.keepsIdentities {s t : World} (h : Bookkeeps s t) : KeepsIdentities s t := by
  obtain ⟨rows, didRecords, rfl⟩ := h
  exact ⟨rfl, rfl, rfl⟩

section

variable (env : Environment) {I : World → Prop}

theorem keeps_of_audits {α : Type} {p : Promise α} (hp : p.Obeys I Audits) :
    p.Obeys I Bookkeeps := by
  induction hp with
  | fulfilled a => exact .fulfilled a
  | rejected e => exact .rejected e
  | pending h _ ih => exact .pending (fun s hs => .of_audits (h s hs)) ih

theorem keeps_query {α : Type} (f : World → α) :
    (Async.query f : Promise α).Obeys I Bookkeeps :=
  Async.obeys_query Bookkeeps.refl

theorem setIdentityStatusOnChain_keeps :
    Lifecycle.setIdentityStatusOnChain.Obeys I Bookkeeps := by
  apply Async.Obeys.bind (keeps_query _)
  intro refusal
  cases refusal with
  | none => exact Async.obeys_pure _
  | some message => exact Async.obeys_throw _

theorem obeys_tryCatch {α : Type} {T : World → World → Prop} {p : Promise α} {k : Error → Promise α}
    (hp : p.Obeys I T) (hk : ∀ e, (k e).Obeys I T) : (tryCatch p k).Obeys I T := by
  induction hp with
  | fulfilled a => exact .fulfilled a
  | rejected e => exact hk e
  | pending h _ ih => exact .pending h ih

theorem anchorStatus_keeps (target : IdentityRow) :
    (Lifecycle.anchorStatus env target).Obeys I Bookkeeps := by
  apply obeys_tryCatch
  · cases env.besu with
    | none => exact Async.obeys_throw _
    | some besu =>
      apply (keeps_of_audits (resolveOnChainWallet_audits env besu _ _)).bind
      intro wallet
      exact setIdentityStatusOnChain_keeps
  · intro e
    exact Async.obeys_pure _

theorem anchorIdentity_keeps (did displayName : String) :
    (anchorIdentity env did displayName).Obeys I Bookkeeps := by
  unfold anchorIdentity
  cases env.besu with
  | none => exact keeps_of_audits (persistAnchorAudit_audits env _ _)
  | some besu => exact keeps_of_audits (persistAnchorAudit_audits env _ _)

theorem anchorStatusChange_keeps (identity : IdentityRow) :
    (anchorStatusChange env identity).Obeys I Bookkeeps := by
  unfold anchorStatusChange
  cases env.besu with
  | none => exact Async.obeys_pure _
  | some besu =>
    apply obeys_tryCatch
    · apply Async.Obeys.ite (Async.obeys_pure _)
      apply (anchorIdentity_keeps env _ _).bind
      intro _
      exact setIdentityStatusOnChain_keeps
    · intro e
      exact Async.obeys_pure _

theorem syncDidRecord_keeps (identityId : String) (status : DidStatus) :
    (syncDidRecord identityId status).Obeys I Bookkeeps := by
  apply Async.Obeys.bind (keeps_query _)
  intro identity
  cases identity with
  | none => exact Async.obeys_pure _
  | some identity =>
    apply Async.Obeys.ite
    · apply Async.Obeys.bind
      · exact Async.obeys_statement fun s _ => bookkeeps_didRecords s _
      · intro _
        exact Async.obeys_pure _
    · exact Async.obeys_pure _

theorem insert_obeys {T : World → World → Prop} {f : World → Option World}
    (hf : ∀ s t, f s = some t → T s t) (hr : ∀ s, T s s) : (insert f).Obeys I T := by
  apply Async.Obeys.bind
  · apply Async.obeys_statement
    intro s _
    cases hs : f s with
    | none => simpa [hs] using hr s
    | some t => simpa [hs] using hf s t hs
  · intro done
    exact .ite (Async.obeys_pure _) (Async.obeys_throw _)

theorem createDidRecord_keeps (identityId did : String) (status : DidStatus) :
    (createDidRecord env identityId did status).Obeys I Bookkeeps := by
  apply Async.Obeys.ite (Async.obeys_throw _)
  apply Async.Obeys.bind
  · apply insert_obeys _ .refl
    intro s t ht
    simp only [insertDidRecord, Option.ite_none_left_eq_some, Option.some.injEq] at ht
    obtain ⟨-, rfl⟩ := ht
    exact bookkeeps_didRecords s _
  · intro _
    exact keeps_query _

theorem assertNotLastAdmin_keeps (removing : Bool) (message : String) :
    (Lifecycle.assertNotLastAdmin env removing message).Obeys I Bookkeeps := by
  refine Async.Obeys.ite ?_ (Async.obeys_pure _)
  apply Async.Obeys.bind
  · apply Async.Obeys.ite (Async.obeys_pure _)
    apply Async.Obeys.bind (keeps_query _)
    intro adminRole
    exact .ite (Async.obeys_pure _) (keeps_query _)
  · intro admins
    exact .ite (Async.obeys_throw _) (Async.obeys_pure _)

end

/-! ### What the procedures write -/

/-- What `applyIdentityRoles` found in the catalogue: the names that it was asked for. -/
structure RolesFound (h : List (World × World)) (roleNames : List RoleName) (found : List String) :
    Prop where
  names : ∀ r, r ∈ found ↔ ∃ n ∈ roleNames, r = n.label
  source : ∃ e ∈ h, found.Sublist e.1.roles

section

variable {env : Environment} {α : Type} {Q : List (World × World) → World → World → Prop}
  {h : List (World × World)}

section

variable (hq : ∀ h s t, Bookkeeps s t → Q h s t)

include hq

theorem keeps_recalls {β : Type} {p : Promise β} {k : β → Promise α}
    {R : α → List (World × World) → Prop} (hp : p.Obeys (fun _ => True) Bookkeeps)
    (hk : ∀ b h', h ⊆ h' → (k b).Yields Q R h') : (p >>= k).Yields Q R h :=
  (hp.recalls hq h).bind hk

theorem updateIdentityLifecycle_recalls {id : String} {state : LifecycleState}
    (hw : ∀ s, Q h s (setLifecycleIn id state s)) :
    (updateIdentityLifecycle env id state).Recalls Q h := by
  refine .ite (fun _ => .fulfilled trivial) fun _ => ?_
  apply Async.yields_statement_bind hw
  intro s
  exact (syncDidRecord_keeps _ _).recalls hq _

theorem applyIdentityStatusChange_recalls {id : String} {status : IdentityStatus}
    (hw : ∀ s, Q h s (setStatusIn id status s)) :
    (applyIdentityStatusChange env id status).Recalls Q h := by
  refine .ite (fun _ => .fulfilled trivial) fun _ => ?_
  apply Async.yields_statement_bind hw
  intro s
  exact (syncDidRecord_keeps _ _).recalls hq _

theorem applyIdentityRoles_recalls {id : String} {roleNames : List RoleName}
    (hw : ∀ found h' s, h ⊆ h' → RolesFound h' roleNames found → Q h' s (setRolesIn id found s)) :
    (applyIdentityRoles env id roleNames).Recalls Q h := by
  refine .ite (fun _ => .fulfilled trivial) fun _ => ?_
  apply Async.yields_query_bind (fun s => hq _ _ _ (.refl s))
  intro s
  refine .ite (fun _ => .rejected _ _) fun hmissing => ?_
  refine Async.yields_statement_bind (fun s' => ?_) fun s' => .fulfilled trivial
  apply hw
  · simp
  refine ⟨?_, (s, s), by simp, List.filter_sublist⟩
  intro r
  have hwanted : r ∈ (roleNames.map RoleName.label).eraseDups ↔ ∃ n ∈ roleNames, r = n.label := by
    simp [eq_comm]
  rw [← hwanted]
  constructor
  · intro hr
    simpa using (List.mem_filter.mp hr).2
  · intro hr
    by_contra hnot
    refine hmissing (List.ne_nil_of_mem (List.mem_filter.mpr ⟨hr, ?_⟩))
    simpa only [Bool.not_eq_true', List.contains_eq_mem, decide_eq_false_iff_not] using hnot

omit hq in
theorem adminProcedure_recalls {user : Option SessionUser} {p : SessionUser → Promise α}
    (hp : ∀ user, (p user).Recalls Q h) : (adminProcedure user p).Recalls Q h := by
  cases user with
  | none => exact .rejected _ _
  | some user => exact .ite (fun _ => hp user) fun _ => .rejected _ _

theorem create_recalls {user : Option SessionUser} {uuid : String} {input : InsertIdentity}
    (hw : ∀ s t, insertIdentity (identityRow uuid input) s = some t → Q h s t) :
    (create env user uuid input).Recalls Q h := by
  apply adminProcedure_recalls
  intro user
  have hcreate : (createIdentity env uuid input).Recalls Q h := by
    refine .ite (fun _ => .rejected _ _) fun _ => ?_
    have hinsert : (insert (insertIdentity (identityRow uuid input))).Recalls Q h := by
      refine Async.yields_statement_bind (fun s => ?_) fun s =>
        .ite (fun _ => .fulfilled trivial) fun _ => .rejected _ _
      cases hs : insertIdentity (identityRow uuid input) s with
      | none => exact hq _ _ _ (.refl s)
      | some t => exact hw s t hs
    apply hinsert.bind
    intro _ h' _
    exact (keeps_query (I := fun _ => True) _).recalls hq h'
  apply (hcreate.recover fun _ h' _ => .rejected _ h').bind
  intro identity h₁ _
  cases identity with
  | none => exact .rejected _ _
  | some identity =>
    apply keeps_recalls hq
      (obeys_tryCatch (createDidRecord_keeps env _ _ _) fun _ => Async.obeys_pure _)
    intro _ h₂ _
    apply keeps_recalls hq (anchorIdentity_keeps env _ _)
    intro _ h₃ _
    apply keeps_recalls hq (keeps_of_audits (getIdentityByLinkedUserId_audits env _))
    intro acting h₄ _
    apply keeps_recalls hq (keeps_of_audits (createAuditEvent_audits env _))
    intro _ h₅ _
    exact .fulfilled trivial

theorem getIdentityById_recalls {id : String} {k : Option IdentityRow → Promise α}
    (hnone : (k none).Recalls Q h)
    (hk : ∀ s, (k (s.identities.find? (·.id == id))).Recalls Q (h ++ [(s, s)])) :
    (getIdentityById env id >>= k).Recalls Q h := by
  unfold getIdentityById
  split
  · exact hnone
  · exact Async.yields_query_bind (fun s => hq _ _ _ (.refl s)) hk

theorem assignRoles_recalls {user : Option SessionUser} {input : AssignRolesInput}
    (hw : ∀ found h' s, h ⊆ h' → RolesFound h' input.roleNames found →
      Q h' s (setRolesIn input.identityId found s)) : (assignRoles env user input).Recalls Q h := by
  apply adminProcedure_recalls
  intro user
  apply getIdentityById_recalls hq (.rejected _ _)
  intro s
  cases hf : s.identities.find? (·.id == input.identityId) with
  | none => exact .rejected _ _
  | some identity =>
    have hid : identity.id = input.identityId := by simpa using List.find?_some hf
    apply keeps_recalls hq (keeps_of_audits (getIdentityByLinkedUserId_audits env _))
    intro acting h₁ hh₁
    have hroles : (applyIdentityRoles env identity.id input.roleNames).Recalls Q h₁ := by
      apply applyIdentityRoles_recalls hq
      intro found h' s' hh' hnames
      rw [hid]
      have hh : h ⊆ h' := List.Subset.trans (List.subset_append_left _ _) (List.Subset.trans hh₁ hh')
      exact hw found h' s' hh hnames
    apply hroles.bind
    intro updated h₂ _
    cases updated with
    | none => exact .rejected _ _
    | some updated =>
      apply keeps_recalls hq (keeps_of_audits (createAuditEvent_audits env _))
      intro _ h₃ _
      exact .fulfilled trivial

theorem setStatus_recalls {user : Option SessionUser} {input : SetStatusInput}
    (hw : ∀ h' s, h ⊆ h' → Q h' s (setStatusIn input.identityId input.status s)) :
    (setStatus env user input).Recalls Q h := by
  apply adminProcedure_recalls
  intro user
  apply getIdentityById_recalls hq (.rejected _ _)
  intro s
  cases s.identities.find? (·.id == input.identityId) with
  | none => exact .rejected _ _
  | some identity =>
    refine .ite (fun _ => .fulfilled trivial) fun _ => ?_
    apply keeps_recalls hq (keeps_of_audits (getIdentityByLinkedUserId_audits env _))
    intro acting h₁ hh₁
    refine .ite (fun _ => ?_) fun _ => ?_
    · apply keeps_recalls hq (keeps_of_audits (createAuditEvent_audits env _))
      intro _ h₂ _
      exact .rejected _ _
    · have hupdate : (applyIdentityStatusChange env input.identityId input.status).Recalls Q h₁ := by
        apply applyIdentityStatusChange_recalls hq
        intro s'
        exact hw h₁ s' (List.Subset.trans (List.subset_append_left _ _) hh₁)
      apply hupdate.bind
      intro updated h₂ _
      apply keeps_recalls hq (anchorStatusChange_keeps env _)
      intro _ h₃ _
      apply keeps_recalls hq (keeps_of_audits (getIdentityByLinkedUserId_audits env _))
      intro acting h₄ _
      apply keeps_recalls hq (keeps_of_audits (createAuditEvent_audits env _))
      intro _ h₅ _
      exact .fulfilled trivial

/-! ### The governance procedures -/

/-- A call acting on `target` for `user`, as far as it has run. -/
structure Acts (user : Option ℕ) (did : String) (h : List (World × World)) (actor target : Actor) :
    Prop where
  actor : ActorRead user h actor
  target : TargetRead did h target

omit hq in
theorem Acts.mono {user : Option ℕ} {did : String} {h h' : List (World × World)}
    {actor target : Actor} (ha : Acts user did h actor target) (hh : h ⊆ h') :
    Acts user did h' actor target :=
  ⟨ha.actor.mono hh, ha.target.mono hh⟩

/-- The call has acted on a target within the actor's scope. -/
def Acted (user : Option ℕ) (did : String) (h : List (World × World)) : Prop :=
  ∃ actor target, Acts user did h actor target ∧ InScope actor target

theorem actors_yields {user : Option ℕ} {did what : String} {k : Actor → Actor → Promise α}
    (hk : ∀ actor target h', h ⊆ h' → Acts user did h' actor target → InScope actor target →
      (k actor target).Recalls Q h') :
    (do
      let actor ← requireActor env user
      let target ← requireTarget env did
      assertScopedManager actor target what
      k actor target : Promise α).Yields Q (fun _ h' => Acted user did h') h := by
  have haudits : ∀ h s t, Audits s t → Q h s t := fun h s t ht => hq h s t (.of_audits ht)
  apply requireActor_recalls haudits
  intro actor h₁ hh₁ hactor _
  apply requireTarget_recalls haudits
  intro target h₂ hh₂ htarget
  apply assertScopedManager_recalls
  intro hscope
  have hacts : Acts user did h₂ actor target := ⟨hactor.mono hh₂, htarget⟩
  apply (hk actor target h₂ (List.Subset.trans hh₁ hh₂) hacts hscope).yields
  exact fun _ h' hh => ⟨actor, target, hacts.mono hh, hscope⟩

/-- What `verify`, `suspend` and `reactivate` do once the lifecycle state has been checked. -/
theorem changeLifecycle_recalls {actor : Actor} {target : IdentityRow} {state : LifecycleState}
    {action reason : String} (hw : ∀ s, Q h s (setLifecycleIn target.id state s)) :
    (do
      let updated ← updateIdentityLifecycle env target.id state
      Lifecycle.anchorStatus env target
      audit env actor.identity.id action "IDENTITY" target.id .allow reason
      pure updated : Promise (Option IdentityRow)).Recalls Q h := by
  apply (updateIdentityLifecycle_recalls hq hw).bind
  intro updated h₁ _
  apply keeps_recalls hq (anchorStatus_keeps env _)
  intro _ h₂ _
  apply keeps_recalls hq (keeps_of_audits (audit_audits env _ _ _ _ _ _))
  intro _ h₃ _
  exact .fulfilled trivial

theorem verify_yields {user : Option ℕ} {input : Lifecycle.LifecycleInput}
    (hw : ∀ actor target h' s, Acts user input.did h' actor target → InScope actor target →
      target.identity.lifecycleState = .pending →
        Q h' s (setLifecycleIn target.identity.id .verified s)) :
    (Lifecycle.verify env user input).Yields Q (fun _ h' => Acted user input.did h') h := by
  apply actors_yields hq
  intro actor target h₁ _ hacts hscope
  apply guard_recalls
  intro hstate
  apply changeLifecycle_recalls hq
  intro s
  exact hw actor target h₁ s hacts hscope (not_not.mp hstate)

theorem reactivate_yields {user : Option ℕ} {input : Lifecycle.LifecycleInput}
    (hw : ∀ actor target h' s, Acts user input.did h' actor target → InScope actor target →
      target.identity.lifecycleState = .suspended →
        Q h' s (setLifecycleIn target.identity.id .verified s)) :
    (Lifecycle.reactivate env user input).Yields Q (fun _ h' => Acted user input.did h') h := by
  apply actors_yields hq
  intro actor target h₁ _ hacts hscope
  apply guard_recalls
  intro hstate
  apply changeLifecycle_recalls hq
  intro s
  exact hw actor target h₁ s hacts hscope (not_not.mp hstate)

theorem suspend_yields {user : Option ℕ} {input : Lifecycle.LifecycleInput}
    (hw : ∀ actor target h' s, Acts user input.did h' actor target → InScope actor target →
      target.identity.lifecycleState = .verified →
        Q h' s (setLifecycleIn target.identity.id .suspended s)) :
    (Lifecycle.suspend env user input).Yields Q (fun _ h' => Acted user input.did h') h := by
  apply actors_yields hq
  intro actor target h₁ _ hacts hscope
  apply guard_recalls
  intro _
  apply guard_recalls
  intro hstate
  apply keeps_recalls hq (keeps_of_audits (getIdentityRoles_audits env _))
  intro roles h₂ hh₂
  apply keeps_recalls hq (assertNotLastAdmin_keeps env _ _)
  intro _ h₃ hh₃
  apply changeLifecycle_recalls hq
  intro s
  exact hw actor target h₃ s (hacts.mono (List.Subset.trans hh₂ hh₃)) hscope (not_not.mp hstate)

theorem assignUserRole_yields {user : Option ℕ} {input : Lifecycle.LifecycleInput}
    (hw : ∀ actor target h' s, Acts user input.did h' actor target → InScope actor target →
      target.identity.lifecycleState ≠ .pending →
        (∀ found, RolesFound h' [.user] found → Q h' s (setRolesIn target.identity.id found s)) ∧
          Q h' s (setScopeIn target.identity.id (some (effectiveScope actor.identity)) s)) :
    (Lifecycle.assignUserRole env user input).Yields Q (fun _ h' => Acted user input.did h') h := by
  apply actors_yields hq
  intro actor target h₁ _ hacts hscope
  apply guard_recalls
  intro hstate
  have hroles : (applyIdentityRoles env target.identity.id [.user]).Recalls Q h₁ := by
    apply applyIdentityRoles_recalls hq
    intro found h' s hh' hnames
    exact (hw actor target h' s (hacts.mono hh') hscope hstate).1 found hnames
  apply hroles.bind
  intro updated h₂ hh₂
  apply keeps_recalls hq (.ite (Async.obeys_throw _) (Async.obeys_pure _))
  intro _ h₃ hh₃
  have hsetScope : (setIdentityScope env target.identity.id
      (some (effectiveScope actor.identity))).Recalls Q h₃ := by
    refine .ite (fun _ => .fulfilled trivial) fun _ => ?_
    refine .pending (fun s => ?_) fun s => .fulfilled trivial
    exact (hw actor target h₃ s (hacts.mono (List.Subset.trans hh₂ hh₃)) hscope hstate).2
  apply hsetScope.bind
  intro _ h₄ _
  apply keeps_recalls hq (keeps_of_audits (audit_audits env _ _ _ _ _ _))
  intro _ h₅ _
  exact .fulfilled trivial

theorem assignRolesAdmin_yields {user : Option ℕ} {input : Lifecycle.AssignRolesInput}
    (hw : ∀ actor target h' s found, Acts user input.did h' actor target →
      hasRole actor "ADMIN" = true →
        Lifecycle.auditorCombination (input.roles.map RoleName.label) = false →
          (target.identity.lifecycleState = .pending → ∀ r ∈ input.roles, r = .user) →
            RolesFound h' input.roles found → Q h' s (setRolesIn target.identity.id found s)) :
    (Lifecycle.assignRolesAdmin env user input).Yields Q
      (fun _ h' => ∃ actor, ActorRead user h' actor ∧ hasRole actor "ADMIN" = true) h := by
  have haudits : ∀ h s t, Audits s t → Q h s t := fun h s t ht => hq h s t (.of_audits ht)
  apply requireActor_recalls haudits
  intro actor h₁ _ hactor _
  apply assertAdmin_recalls
  intro hadmin
  apply requireTarget_recalls haudits
  intro target h₂ hh₂ htarget
  unfold Lifecycle.assertNotAuditorCombination
  by_cases hauditor : Lifecycle.auditorCombination (input.roles.map RoleName.label) = true
  · rw [if_pos hauditor]
    exact .rejected _ _
  rw [if_neg hauditor]
  apply guard_recalls
  intro hpending
  apply keeps_recalls hq (keeps_of_audits (getIdentityRoles_audits env _))
  intro roles h₃ hh₃
  apply keeps_recalls hq (assertNotLastAdmin_keeps env _ _)
  intro _ h₄ hh₄
  have hacts : Acts user input.did h₄ actor target :=
    Acts.mono ⟨hactor.mono hh₂, htarget⟩ (List.Subset.trans hh₃ hh₄)
  have hroles : (applyIdentityRoles env target.identity.id input.roles).Recalls Q h₄ := by
    apply applyIdentityRoles_recalls hq
    intro found h' s hh' hnames
    apply hw actor target h' s found (hacts.mono hh') hadmin (by simpa using hauditor) _ hnames
    intro hstate
    by_contra hnot
    push Not at hnot
    obtain ⟨r, hr, hne⟩ := hnot
    exact hpending ⟨hstate, List.any_eq_true.mpr ⟨r, hr, by simpa using hne⟩⟩
  apply hroles.bind
  intro updated h₅ hh₅
  have hactor₅ : ActorRead user h₅ actor := hacts.actor.mono hh₅
  apply keeps_recalls hq (keeps_of_audits (audit_audits env _ _ _ _ _ _))
  intro _ h₆ hh₆
  exact .fulfilled ⟨actor, hactor₅.mono hh₆, hadmin⟩

end

end

/-! ### The system -/

inductive AdministrationCall where
  | create (user : Option SessionUser) (uuid : String) (input : InsertIdentity)
  | setStatus (user : Option SessionUser) (input : SetStatusInput)
  | assignRoles (user : Option SessionUser) (input : AssignRolesInput)
  | verify (user : Option ℕ) (input : Lifecycle.LifecycleInput)
  | suspend (user : Option ℕ) (input : Lifecycle.LifecycleInput)
  | reactivate (user : Option ℕ) (input : Lifecycle.LifecycleInput)
  | assignUserRole (user : Option ℕ) (input : Lifecycle.LifecycleInput)
  | assignRolesAdmin (user : Option ℕ) (input : Lifecycle.AssignRolesInput)

inductive AdministrationReply where
  | created (identity : IdentityRow)
  | status (result : SetStatusResult)
  | lifecycle (identity : Option IdentityRow)
  | roles (names : Option (List String))

variable (env : Environment)

def administrationBody : AdministrationCall → Promise AdministrationReply
  | .create user uuid input => do return .created (← create env user uuid input)
  | .setStatus user input => do return .status (← setStatus env user input)
  | .assignRoles user input => do return .roles (some (← assignRoles env user input))
  | .verify user input => do return .lifecycle (← Lifecycle.verify env user input)
  | .suspend user input => do return .lifecycle (← Lifecycle.suspend env user input)
  | .reactivate user input => do return .lifecycle (← Lifecycle.reactivate env user input)
  | .assignUserRole user input => do return .roles (← Lifecycle.assignUserRole env user input)
  | .assignRolesAdmin user input => do return .roles (← Lifecycle.assignRolesAdmin env user input)

/-- The rest of the application leaves the identities and their roles alone. -/
def administrationSystem : System AdministrationCall World Error AdministrationReply where
  body := administrationBody env
  interfere := KeepsIdentities

abbrev AdministrationConfig := Config AdministrationCall World Error AdministrationReply

/-- What a statement of the call writes to the identities or their roles, after the past `h`. -/
def AdministrationCall.Writes (call : AdministrationCall) (h : List (World × World)) (s t : World) :
    Prop :=
  match call with
  | .create _ uuid input => insertIdentity (identityRow uuid input) s = some t
  | .setStatus _ input => t = setStatusIn input.identityId input.status s
  | .assignRoles _ input =>
    ∃ found, RolesFound h input.roleNames found ∧ t = setRolesIn input.identityId found s
  | .verify user input => ∃ actor target, Acts user input.did h actor target ∧
      InScope actor target ∧ target.identity.lifecycleState = .pending ∧
        t = setLifecycleIn target.identity.id .verified s
  | .suspend user input => ∃ actor target, Acts user input.did h actor target ∧
      InScope actor target ∧ target.identity.lifecycleState = .verified ∧
        t = setLifecycleIn target.identity.id .suspended s
  | .reactivate user input => ∃ actor target, Acts user input.did h actor target ∧
      InScope actor target ∧ target.identity.lifecycleState = .suspended ∧
        t = setLifecycleIn target.identity.id .verified s
  | .assignUserRole user input => ∃ actor target, Acts user input.did h actor target ∧
      InScope actor target ∧ target.identity.lifecycleState ≠ .pending ∧
        ((∃ found, RolesFound h [.user] found ∧ t = setRolesIn target.identity.id found s) ∨
          t = setScopeIn target.identity.id (some (effectiveScope actor.identity)) s)
  | .assignRolesAdmin user input => ∃ actor target found, Acts user input.did h actor target ∧
      hasRole actor "ADMIN" = true ∧
        Lifecycle.auditorCombination (input.roles.map RoleName.label) = false ∧
          (target.identity.lifecycleState = .pending → ∀ r ∈ input.roles, r = .user) ∧
            RolesFound h input.roles found ∧ t = setRolesIn target.identity.id found s

def AdministrationCall.Effect (call : AdministrationCall) (h : List (World × World)) (s t : World) :
    Prop :=
  KeepsIdentities s t ∨ call.Writes h s t

theorem administration_recalls (call : AdministrationCall) :
    ((administrationSystem env).body call).Recalls call.Effect [] := by
  have hq : ∀ h s t, Bookkeeps s t → call.Effect h s t := fun _ _ _ hb => .inl hb.keepsIdentities
  cases call with
  | create user uuid input =>
    apply (create_recalls hq fun s t ht => .inr ht).bind
    exact fun _ _ _ => .fulfilled trivial
  | setStatus user input =>
    apply (setStatus_recalls hq fun h s _ => .inr rfl).bind
    exact fun _ _ _ => .fulfilled trivial
  | assignRoles user input =>
    apply (assignRoles_recalls hq fun found h s _ hn => .inr ⟨found, hn, rfl⟩).bind
    exact fun _ _ _ => .fulfilled trivial
  | verify user input =>
    refine (verify_yields hq fun actor target h s ha hs hp => ?_).bind fun _ _ _ => .fulfilled trivial
    exact .inr ⟨actor, target, ha, hs, hp, rfl⟩
  | suspend user input =>
    refine (suspend_yields hq fun actor target h s ha hs hp => ?_).bind fun _ _ _ => .fulfilled trivial
    exact .inr ⟨actor, target, ha, hs, hp, rfl⟩
  | reactivate user input =>
    refine (reactivate_yields hq fun actor target h s ha hs hp => ?_).bind
      fun _ _ _ => .fulfilled trivial
    exact .inr ⟨actor, target, ha, hs, hp, rfl⟩
  | assignUserRole user input =>
    refine (assignUserRole_yields hq fun actor target h s ha hs hp => ⟨?_, ?_⟩).bind
      fun _ _ _ => .fulfilled trivial
    · intro found hn
      exact .inr ⟨actor, target, ha, hs, hp, .inl ⟨found, hn, rfl⟩⟩
    · exact .inr ⟨actor, target, ha, hs, hp, .inr rfl⟩
  | assignRolesAdmin user input =>
    refine (assignRolesAdmin_yields hq fun actor target h s found ha hadmin hc hp hn => ?_).bind
      fun _ _ _ => .fulfilled trivial
    exact .inr ⟨actor, target, found, ha, hadmin, hc, hp, hn, rfl⟩

def platformAdmin : SessionUser where
  id := 1
  role := .admin

end Sampraan.Identities
