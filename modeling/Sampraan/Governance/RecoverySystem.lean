import Sampraan.Governance.Recovery

/-!
The key recovery procedures as one system: which statements write recovery
requests or rotate a key, and what their calls have found by then.
-/

namespace Sampraan.Governance.Recovery

open Backend Library
open Library.Async (Passed passed_now)
open CryptoAssurance (Actor)
open Transfer (matchesScope)

/-! ### What a call has found -/

def RequestRead (requestId : String) (h : List (World × World)) (request : KeyRecoveryRequestRow) :
    Prop :=
  ∃ e ∈ h, e.1.keyRecoveryRequests.find? (·.id == requestId) = some request

structure Requests (user : Option ℕ) (input : RequestInput) (h : List (World × World))
    (actor subject : Actor) : Prop where
  actorRead : ActorRead user h actor
  subjectRead : TargetRead input.subjectDid h subject
  authority : subject.identity.id = actor.identity.id ∨
    hasRole actor "MANAGER" = true ∧ matchesScope actor subject.identity = true

structure Decides (user : Option ℕ) (input : DecideInput) (h : List (World × World)) (actor : Actor)
    (request : KeyRecoveryRequestRow) : Prop where
  actorRead : ActorRead user h actor
  admin : hasRole actor "ADMIN" = true
  requestRead : RequestRead input.requestId h request
  undecided : request.status = .pending ∨ request.status = .awaitingAdmin
  notRequester : request.requestedByIdentityId ≠ actor.identity.id

structure Executes (user : Option ℕ) (input : ExecuteInput) (h : List (World × World)) (actor : Actor)
    (request : KeyRecoveryRequestRow) (subject : IdentityRow) : Prop where
  actorRead : ActorRead user h actor
  admin : hasRole actor "ADMIN" = true
  requestRead : RequestRead input.requestId h request
  approved : request.status = .approved
  unexecuted : request.executedAt = none
  subjectRead : ∃ e ∈ h, e.1.identities.find? (·.id == request.subjectIdentityId) = some subject

variable {env : Environment} {h h' : List (World × World)} {request : KeyRecoveryRequestRow}
  {actor : Actor} {user : Option ℕ}

theorem RequestRead.mono {requestId : String} (hr : RequestRead requestId h request)
    (hh : h ⊆ h') : RequestRead requestId h' request := by
  obtain ⟨e, he, hf⟩ := hr
  exact ⟨e, hh he, hf⟩

theorem RequestRead.id_eq {requestId : String} (hr : RequestRead requestId h request) :
    request.id = requestId := by
  obtain ⟨e, -, hf⟩ := hr
  simpa using List.find?_some hf

theorem Requests.mono {input : RequestInput} {subject : Actor}
    (hr : Requests user input h actor subject) (hh : h ⊆ h') :
    Requests user input h' actor subject :=
  ⟨hr.actorRead.mono hh, hr.subjectRead.mono hh, hr.authority⟩

theorem Executes.mono {input : ExecuteInput} {subject : IdentityRow}
    (he : Executes user input h actor request subject) (hh : h ⊆ h') :
    Executes user input h' actor request subject := by
  obtain ⟨e, hmem, hf⟩ := he.subjectRead
  exact ⟨he.actorRead.mono hh, he.admin, he.requestRead.mono hh, he.approved, he.unexecuted,
    ⟨e, hh hmem, hf⟩⟩

/-! ### The procedures -/

/-- The step writes no recovery request and rotates no key. -/
structure KeepsRecovery (s t : World) : Prop where
  requests : t.keyRecoveryRequests = s.keyRecoveryRequests
  rotations : t.keyRotations = s.keyRotations

theorem KeepsRecovery.of_audits {s t : World} (h : Audits s t) : KeepsRecovery s t := by
  obtain ⟨rows, rfl⟩ := h
  exact ⟨rfl, rfl⟩

/-- The call rotates the subject's key by this statement. -/
def Rotates (user : Option ℕ) (input : ExecuteInput) (h : List (World × World)) (s t : World) :
    Prop :=
  ∃ actor request subject rotation note, Executes user input h actor request subject ∧
    rotation.did = subject.did ∧ t = Did.rotateIn rotation note s

section

variable {α : Type} {Q : List (World × World) → World → World → Prop}
  {R : α → List (World × World) → Prop} (hq : ∀ h s t, Audits s t → Q h s t)

include hq

theorem auditRecovery_yields {action resourceId reason : String} {k : Unit → Promise α}
    (hk : ∀ h', h <+: h' → (k ()).Yields Q R h') :
    (auditRecovery env actor action resourceId reason >>= k).Yields Q R h := by
  apply ((audit_audits env _ _ _ _ _ _).yields hq h).bind
  exact fun _ h' hh => hk h' hh.1

theorem selectKeyRecoveryRequest_recalls {id : String} :
    (selectKeyRecoveryRequest id).Recalls Q h :=
  .pending (fun s => hq _ _ _ (.refl s)) fun _ => .fulfilled trivial

theorem updateKeyRecoveryRequest_recalls {id : String}
    {patch : Time → KeyRecoveryRequestRow → KeyRecoveryRequestRow}
    (hw : ∀ s, Q h s (updateRecoveryRequests id patch s)) :
    (updateKeyRecoveryRequest env id patch).Recalls Q h := by
  refine .ite (fun _ => .fulfilled trivial) fun _ => ?_
  apply Async.yields_statement_bind hw
  intro s
  exact selectKeyRecoveryRequest_recalls hq

theorem requestKeyRecovery_yields {uuid : String} {input : RequestInput}
    (hw : ∀ actor subject h' s t, Requests user input h' actor subject →
      insertKeyRecoveryRequest (keyRecoveryRequestRow uuid
        { subjectIdentityId := subject.identity.id
          requestedByIdentityId := actor.identity.id
          newKeyDigest := input.newKeyDigest }) s = some t → Q h' s t) :
    (requestKeyRecovery env user uuid input).Yields Q
      (fun _ h' => ∃ actor subject, Requests user input h' actor subject) h := by
  apply requireActor_recalls hq
  intro actor h₁ _ hactor _
  apply requireTarget_recalls hq
  intro subject h₂ hh₂ hsubject
  apply guard_recalls
  intro hmanager
  apply guard_recalls
  intro hscope
  apply guard_recalls
  intro _
  have hrequests : Requests user input h₂ actor subject := by
    refine ⟨hactor.mono hh₂, hsubject, ?_⟩
    by_cases hself : subject.identity.id = actor.identity.id
    · exact .inl hself
    · have hrole : hasRole actor "MANAGER" = true := by simpa [hself] using hmanager
      exact .inr ⟨hrole, by simpa [hself, hrole] using hscope⟩
  have hcreate : (createKeyRecoveryRequest env uuid
      { subjectIdentityId := subject.identity.id
        requestedByIdentityId := actor.identity.id
        newKeyDigest := input.newKeyDigest }).Recalls Q h₂ := by
    refine .ite (fun _ => .fulfilled trivial) fun _ => ?_
    have hinsert := fun s t => hw actor subject h₂ s t hrequests
    apply (insert_recalls (fun s => hq _ _ _ (.refl s)) hinsert).bind
    intro _ h' _
    exact selectKeyRecoveryRequest_recalls hq
  apply hcreate.bind
  intro created h₃ hh₃
  apply auditRecovery_yields hq
  intro h₄ hh₄
  exact .fulfilled ⟨actor, subject, (hrequests.mono hh₃).mono hh₄.subset⟩

theorem decideKeyRecovery_recalls {input : DecideInput}
    (hw : ∀ actor request h' s, Decides user input h' actor request →
      Q h' s (updateRecoveryRequests input.requestId (decidedPatch actor input) s)) :
    (decideKeyRecovery env user input).Recalls Q h := by
  apply requireActor_recalls hq
  intro actor h₁ _ hactor _
  apply assertAdmin_recalls
  intro hadmin
  refine found_recalls hq rfl (fun _ => .rejected _ _) fun s request hf => ?_
  apply guard_recalls
  intro hopen
  apply guard_recalls
  intro hrequester
  have hundecided : request.status = .pending ∨ request.status = .awaitingAdmin := by
    by_contra hnot
    exact hopen (not_or.mp hnot)
  have hdecides : Decides user input (h₁ ++ [(s, s)]) actor request :=
    ⟨hactor.mono (List.subset_append_left _ _), hadmin, ⟨(s, s), by simp, hf⟩, hundecided,
      hrequester⟩
  apply (updateKeyRecoveryRequest_recalls hq fun s' => hw actor request _ s' hdecides).bind
  intro updated h₂ _
  apply auditRecovery_yields hq
  intro h₃ _
  exact .fulfilled trivial

theorem rotateDidKey_yields {did note : String}
    (hw : ∀ h' rotation s, h <+: h' → rotation.did = did → Q h' s (Did.rotateIn rotation note s)) :
    (Did.rotateDidKey env did note).Yields Q
      (fun answer h' => h <+: h' ∧ ∀ rotation, answer = .ok rotation →
        Passed (fun h₁ s t => h <+: h₁ ∧ ∃ rotation : KeyRotation,
          rotation.did = did ∧ t = Did.rotateIn rotation note s) h') h := by
  have hrefused : ∀ reason h', h <+: h' → (pure (.error reason) : Promise (Except String KeyRotation)).Yields
      Q (fun answer h' => h <+: h' ∧ ∀ rotation, answer = .ok rotation →
        Passed (fun h₁ s t => h <+: h₁ ∧ ∃ rotation : KeyRotation,
          rotation.did = did ∧ t = Did.rotateIn rotation note s) h') h' := by
    intro reason h' hpre
    exact .fulfilled ⟨hpre, fun rotation hok => by cases hok⟩
  refine .ite (fun _ => hrefused _ _ (List.prefix_refl h)) fun _ => ?_
  refine Async.yields_query_bind (fun s => hq _ _ _ (.refl s)) fun s => ?_
  have hpre : h <+: h ++ [(s, s)] := List.prefix_append _ _
  cases s.didRecords.find? (·.did == did) with
  | none => exact hrefused _ _ hpre
  | some record =>
    refine .ite (fun _ => hrefused _ _ hpre) fun _ => .ite (fun _ => hrefused _ _ hpre) fun _ => ?_
    refine Async.yields_statement_bind (fun s' => hw _ _ s' hpre rfl) fun s' => ?_
    refine .fulfilled ⟨hpre.trans (List.prefix_append _ _), fun rotation _ => ?_⟩
    exact passed_now ⟨hpre, _, rfl, rfl⟩

theorem executeKeyRecovery_yields {input : ExecuteInput}
    (hrotate : ∀ h' s t, Rotates user input h' s t → Q h' s t)
    (hmark : ∀ h' s, Passed (Rotates user input) h' →
      Q h' s (updateRecoveryRequests input.requestId executedPatch s)) :
    (executeKeyRecovery env user input).Yields Q (fun _ h' => Passed (Rotates user input) h') h := by
  apply requireActor_recalls hq
  intro actor h₁ _ hactor _
  apply assertAdmin_recalls
  intro hadmin
  refine found_recalls hq rfl (fun _ => .rejected _ _) fun s request hf => ?_
  apply guard_recalls
  intro happroved
  apply guard_recalls
  intro hunexecuted
  refine found_recalls hq rfl (fun _ => .rejected _ _) fun s₂ subject hsubject => ?_
  have hexecutes : Executes user input (h₁ ++ [(s, s)] ++ [(s₂, s₂)]) actor request subject :=
    ⟨hactor.mono (by simp), hadmin, ⟨(s, s), by simp, hf⟩, not_not.mp happroved,
      by simpa using hunexecuted, ⟨(s₂, s₂), by simp, hsubject⟩⟩
  have hrotation := fun h' rotation s hpre hdid => hrotate h' s _
    ⟨actor, request, subject, rotation, s!"Governed key recovery (request {request.id})",
      hexecutes.mono (List.IsPrefix.subset hpre), hdid, rfl⟩
  apply (rotateDidKey_yields hq hrotation).bind
  rintro answer h₃ ⟨-, hpassed⟩
  cases answer with
  | error reason => exact .rejected _ _
  | ok rotation =>
    have hrotated : Passed (Rotates user input) h₃ := by
      apply (hpassed rotation rfl).imp
      rintro h' s t ⟨hpre, rotation, hdid, ht⟩
      exact ⟨actor, request, subject, rotation, _, hexecutes.mono hpre.subset, hdid, ht⟩
    apply ((updateKeyRecoveryRequest_recalls hq fun s => hmark h₃ s hrotated).extends).bind
    rintro _ h₄ ⟨hpre₄, -⟩
    apply auditRecovery_yields hq
    intro h₅ hpre₅
    exact .fulfilled ((hrotated.mono hpre₄).mono hpre₅)

end

/-! ### The system -/

inductive RecoveryCall where
  | request (user : Option ℕ) (uuid : String) (input : RequestInput)
  | decide (user : Option ℕ) (input : DecideInput)
  | execute (user : Option ℕ) (input : ExecuteInput)

inductive RecoveryReply where
  | request (row : Option KeyRecoveryRequestRow)
  | executed (newKeyIdentifier : String)

def recoveryBody (env : Environment) : RecoveryCall → Promise RecoveryReply
  | .request user uuid input => do return .request (← requestKeyRecovery env user uuid input)
  | .decide user input => do return .request (← decideKeyRecovery env user input)
  | .execute user input => do return .executed (← executeKeyRecovery env user input)

/-- The rest of the application leaves only the recovery requests alone. -/
def recoverySystem (env : Environment) : System RecoveryCall World Error RecoveryReply where
  body := recoveryBody env
  interfere s t := t.keyRecoveryRequests = s.keyRecoveryRequests

abbrev RecoveryConfig := Config RecoveryCall World Error RecoveryReply

/-- What a statement of the call does to the recovery requests or to a key, after the past `h`. -/
def RecoveryCall.Writes (call : RecoveryCall) (h : List (World × World)) (s t : World) : Prop :=
  match call with
  | .request user uuid input => ∃ actor subject, Requests user input h actor subject ∧
      insertKeyRecoveryRequest (keyRecoveryRequestRow uuid
        { subjectIdentityId := subject.identity.id
          requestedByIdentityId := actor.identity.id
          newKeyDigest := input.newKeyDigest }) s = some t
  | .decide user input => ∃ actor request, Decides user input h actor request ∧
      t = updateRecoveryRequests input.requestId (decidedPatch actor input) s
  | .execute user input => Rotates user input h s t ∨
      Passed (Rotates user input) h ∧ t = updateRecoveryRequests input.requestId executedPatch s

def RecoveryCall.Effect (call : RecoveryCall) (h : List (World × World)) (s t : World) : Prop :=
  KeepsRecovery s t ∨ call.Writes h s t

/-- What the call has done when it is fulfilled. -/
def RecoveryCall.Done (call : RecoveryCall) (h : List (World × World)) : Prop :=
  match call with
  | .execute user input => Passed (Rotates user input) h
  | _ => True

theorem recovery_yields (env : Environment) (call : RecoveryCall) :
    ((recoverySystem env).body call).Yields call.Effect (fun _ h => call.Done h) [] := by
  have hq : ∀ h s t, Audits s t → call.Effect h s t := fun _ _ _ ht => .inl (.of_audits ht)
  cases call with
  | request user uuid input =>
    refine (requestKeyRecovery_yields hq ?_).bind fun _ _ _ => .fulfilled trivial
    intro actor subject h s t hr ht
    exact .inr ⟨actor, subject, hr, ht⟩
  | decide user input =>
    refine (decideKeyRecovery_recalls hq ?_).bind fun _ _ _ => .fulfilled trivial
    intro actor request h s hd
    exact .inr ⟨actor, request, hd, rfl⟩
  | execute user input =>
    refine (executeKeyRecovery_yields hq ?_ ?_).bind fun _ _ hd => .fulfilled hd
    · exact fun h s t hr => .inr (.inl hr)
    · exact fun h s hr => .inr (.inr ⟨hr, rfl⟩)

theorem recovery_recalls (env : Environment) (call : RecoveryCall) :
    ((recoverySystem env).body call).Recalls call.Effect [] :=
  (recovery_yields env call).weaken fun _ _ _ => trivial

end Sampraan.Governance.Recovery
