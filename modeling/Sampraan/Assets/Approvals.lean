import Sampraan.Assets.ApprovalUse

/-! The approval workflow of `routers.ts`: who may decide on a transfer, and what each statement of a
request, of a decision and of a transfer does to the approvals. -/

namespace Sampraan.Assets.Approvals

open Backend Library
open Governance (Audits query_recalls read_recalls found_recalls guard_recalls insert_recalls
  createAuditEvent_audits)

variable (env : Environment)

/-! ### The table -/

structure CreateAssetApproval where
  assetId : String
  requesterIdentityId : String
  action : String
  targetIdentityId : Option String

def assetApprovalRow (id : String) (createdAt : Time) (input : CreateAssetApproval) :
    AssetApprovalRow where
  id := id
  assetId := input.assetId
  requesterIdentityId := input.requesterIdentityId
  action := input.action
  targetIdentityId := input.targetIdentityId
  status := .pending
  createdAt := createdAt

def insertAssetApproval (id : String) (input : CreateAssetApproval) (w : World) : Option World :=
  if w.assetApprovals.any (·.id == id) then none
  else some { w with assetApprovals := w.assetApprovals ++ [assetApprovalRow id w.now input] }

def selectAssetApproval (approvalId : String) : Promise (Option AssetApprovalRow) :=
  Async.query fun w => w.assetApprovals.find? (·.id == approvalId)

/-- The id is a fresh `crypto.randomUUID()`. -/
def createAssetApproval (id : String) (input : CreateAssetApproval) :
    Promise (Option AssetApprovalRow) :=
  if !env.databaseConfigured then pure none
  else do
    insert (insertAssetApproval id input)
    selectAssetApproval id

def getAssetApproval (approvalId : String) : Promise (Option AssetApprovalRow) :=
  if !env.databaseConfigured then pure none else selectAssetApproval approvalId

inductive ApprovalDecision where
  | approved
  | rejected
  deriving DecidableEq

def ApprovalDecision.status : ApprovalDecision → ApprovalStatus
  | .approved => .approved
  | .rejected => .rejected

structure UpdateApprovalStatus where
  approvalId : String
  status : ApprovalDecision
  deriving DecidableEq

def isPending (approvalId : String) (r : AssetApprovalRow) : Bool :=
  r.id == approvalId && r.status == .pending

def decideApprovalIn (input : UpdateApprovalStatus) (w : World) : World :=
  { w with
    assetApprovals := Table.update (isPending input.approvalId)
      (fun r => { r with status := input.status.status }) w.assetApprovals }

def updateAssetApprovalStatus (input : UpdateApprovalStatus) : Promise (Option AssetApprovalRow) :=
  if !env.databaseConfigured then pure none
  else do
    let affectedRows ← Async.statement fun w =>
      (Table.affectedRows (isPending input.approvalId) w.assetApprovals, decideApprovalIn input w)
    if affectedRows = 0 then pure none else getAssetApproval env input.approvalId

/-! ### The procedures -/

def noIdentity : Error := .trpc .forbidden "No SAMPRAAN identity is linked to this session"

structure RequestInput where
  assetId : String
  targetIdentityId : Option String
  deriving DecidableEq

/-- `uuid` is what `crypto.randomUUID()` gives. -/
def request (user : Option PlatformUser) (uuid : String) (input : RequestInput) :
    Promise AssetApprovalRow := do
  match user with
  | none => throw (.trpc .unauthorized "Please login (10001)")
  | some user => do
    match ← getIdentityByLinkedUserId env user.id with
    | none => throw noIdentity
    | some actor => do
      match ← getAssetById env input.assetId with
      | none => throw (.trpc .notFound "Asset not found")
      | some asset => do
        match ← getActiveAssetApproval env
            { assetId := asset.id, requesterIdentityId := actor.id, action := "TRANSFER" } with
        | some existing => pure existing
        | none => do
          match ← createAssetApproval env uuid
              { assetId := asset.id
                requesterIdentityId := actor.id
                action := "TRANSFER"
                targetIdentityId := input.targetIdentityId } with
          | none => throw (.trpc .internalServerError "Approval could not be persisted")
          | some approval => do
            auditTransfer env (some actor) asset "APPROVAL_REQUESTED" .challenge
              s!"Approval requested for TRANSFER of {asset.classification.label} asset"
            pure approval

structure DecideInput where
  approvalId : String
  decision : ApprovalDecision
  reason : Option String
  deriving DecidableEq

def auditDecision (actor : IdentityRow) (approval : AssetApprovalRow) (action : String)
    (decision : AuditDecision) (reason : String) : Promise Unit :=
  createAuditEvent env
    { actorIdentityId := some actor.id
      action := action
      resourceType := "ASSET"
      resourceId := approval.id
      decision := decision
      reason := reason }

def auditDecided (actor : IdentityRow) (approval : AssetApprovalRow) (input : DecideInput) :
    Promise Unit :=
  match input.decision with
  | .approved => auditDecision env actor approval "APPROVAL_GRANTED" .allow
      (input.reason.getD s!"Approval approved by {actor.displayName}")
  | .rejected => auditDecision env actor approval "APPROVAL_REJECTED" .deny
      (input.reason.getD s!"Approval rejected by {actor.displayName}")

def decide (user : Option PlatformUser) (input : DecideInput) : Promise AssetApprovalRow := do
  match user with
  | none => throw (.trpc .unauthorized "Please login (10001)")
  | some user => do
    match ← getIdentityByLinkedUserId env user.id with
    | none => throw noIdentity
    | some actor => do
      match ← getAssetApproval env input.approvalId with
      | none => throw (.trpc .notFound "Approval not found")
      | some approval => do
        let granted ← getIdentityRolesAndPermissions env actor.id
        let role := effectiveRole user granted.roles
        let again ← getIdentityRolesAndPermissions env actor.id
        if ¬ (role = "ADMIN" ∨ "administration:manage" ∈ again.permissions) then do
          auditDecision env actor approval "APPROVAL_DENIED" .deny
            s!"Role {role} may not decide approvals"
          throw (.trpc .forbidden "Only administrators may decide approvals")
        else if approval.requesterIdentityId = actor.id then
          throw (.trpc .forbidden
            "Separation of duties: the requester may not approve their own request")
        else do
          match ← updateAssetApprovalStatus env
              { approvalId := input.approvalId, status := input.decision } with
          | none => throw (.trpc .conflict "Approval is no longer pending")
          | some updated => do
            auditDecided env actor approval input
            pure updated

/-! ### What a call has found -/

variable {env} {h h' : List (World × World)}

/-- What was read of an identity's roles and permissions. -/
structure Granted (identityId : String) (granted : RolesAndPermissions) (h : List (World × World)) :
    Prop where
  roles : ∀ roleName ∈ granted.roles, ∃ e ∈ h,
    { identityId := identityId, roleName := roleName } ∈ e.1.identityRoles
  permissions : ∀ permissionKey ∈ granted.permissions, ∃ roleName,
    (∃ e ∈ h, { identityId := identityId, roleName := roleName } ∈ e.1.identityRoles) ∧
      ∃ e ∈ h, { roleName := roleName, permissionKey := permissionKey } ∈ e.1.rolePermissions

/-- A platform administrator, or an identity with the role ADMIN or the permission to manage. -/
def MayDecide (user : PlatformUser) (identityId : String) (h : List (World × World)) : Prop :=
  user.isAdmin = true ∨
    (∃ e ∈ h, { identityId := identityId, roleName := "ADMIN" } ∈ e.1.identityRoles) ∨
      ∃ roleName, (∃ e ∈ h, { identityId := identityId, roleName := roleName } ∈ e.1.identityRoles) ∧
        ∃ e ∈ h, { roleName := roleName, permissionKey := "administration:manage" } ∈
          e.1.rolePermissions

/-- The call has found the identity of its user, which may decide, and a request of someone else. -/
structure Separated (user : PlatformUser) (approvalId : String) (actor : IdentityRow)
    (h : List (World × World)) : Prop where
  found : ∃ e ∈ h, actor ∈ e.1.identities
  linked : actor.linkedUserId = some user.id
  may : MayDecide user actor.id h
  request : ∃ row, row.id = approvalId ∧ row.requesterIdentityId ≠ actor.id ∧
    ∃ e ∈ h, row ∈ e.1.assetApprovals

/-- The approval that a prepared transfer rests on is one of the actor for the asset. -/
def ApprovalRead (h : List (World × World)) (p : Prepared) : Prop :=
  ∀ row, p.approvalRow = some row → (∃ e ∈ h, row ∈ e.1.assetApprovals) ∧
    row.assetId = p.asset.id ∧ ∃ identity, p.actor = some identity ∧
      row.requesterIdentityId = identity.id

theorem mayDecide_of_granted {user : PlatformUser} {identityId : String}
    {granted again : RolesAndPermissions} (hgranted : Granted identityId granted h)
    (hagain : Granted identityId again h)
    (hmay : effectiveRole user granted.roles = "ADMIN" ∨ "administration:manage" ∈ again.permissions) :
    MayDecide user identityId h := by
  rcases hmay with hrole | hpermission
  · rw [effectiveRole] at hrole
    split at hrole
    · exact .inl ‹_›
    · refine .inr (.inl (hgranted.roles "ADMIN" ?_))
      cases hroles : granted.roles with
      | nil => simp [hroles] at hrole
      | cons role roles =>
        simp only [hroles, List.headD_cons] at hrole
        simp [hrole]
  · exact .inr (.inr (hagain.permissions _ hpermission))

theorem Granted.mono {identityId : String} {granted : RolesAndPermissions}
    (hg : Granted identityId granted h) (hh : h ⊆ h') : Granted identityId granted h' := by
  constructor
  · intro roleName hrole
    obtain ⟨e, he, hmem⟩ := hg.roles roleName hrole
    exact ⟨e, hh he, hmem⟩
  · intro permissionKey hkey
    obtain ⟨roleName, ⟨e, he, hmem⟩, e', he', hmem'⟩ := hg.permissions permissionKey hkey
    exact ⟨roleName, ⟨e, hh he, hmem⟩, e', hh he', hmem'⟩

section

variable {α : Type} {Q : List (World × World) → World → World → Prop}
  {R : α → List (World × World) → Prop} (hq : ∀ h s t, Audits s t → Q h s t)

include hq

theorem granted_yields {identityId : String} {k : RolesAndPermissions → Promise α}
    (hk : ∀ granted h', h <+: h' → Granted identityId granted h' → (k granted).Yields Q R h') :
    (getIdentityRolesAndPermissions env identityId >>= k).Yields Q R h := by
  have hnone : ∀ h', h <+: h' → (k { roles := [], permissions := [] }).Yields Q R h' := fun h' hh =>
    hk _ h' hh ⟨by simp, by simp⟩
  rw [getIdentityRolesAndPermissions]
  split
  · exact hnone h (List.prefix_refl h)
  · rename_i hdb
    rw [getIdentityRoles, if_neg hdb, Async.bind_assoc]
    apply query_recalls hq
    intro s
    split
    · exact hnone _ (List.prefix_append _ _)
    · rw [Async.bind_assoc]
      apply query_recalls hq
      intro s'
      refine hk _ _ ((List.prefix_append _ _).trans (List.prefix_append _ _)) ⟨?_, ?_⟩
      · intro roleName hrole
        refine ⟨(s, s), by simp, ?_⟩
        obtain ⟨row, hrow, rfl⟩ := List.mem_map.mp hrole
        obtain ⟨hmem, hid⟩ := List.mem_filter.mp hrow
        obtain rfl : row.identityId = identityId := by simpa using hid
        exact hmem
      · intro permissionKey hkey
        obtain ⟨row, hrow, rfl⟩ := List.mem_map.mp (List.mem_eraseDups.mp hkey)
        obtain ⟨hmem, hroles⟩ := List.mem_filter.mp hrow
        refine ⟨row.roleName, ⟨(s, s), by simp, ?_⟩, (s', s'), by simp, hmem⟩
        obtain ⟨role, hrole, heq⟩ := List.mem_map.mp (List.contains_iff_mem.mp hroles)
        obtain ⟨hmem', hid⟩ := List.mem_filter.mp hrole
        obtain rfl : role.identityId = identityId := by simpa using hid
        exact heq ▸ hmem'

theorem approvalOf_reads {actor : Option IdentityRow} {asset : AssetRow}
    {k : Option AssetApprovalRow → Promise α}
    (hk : ∀ approvalRow h', h <+: h' → (∀ row, approvalRow = some row →
      (∃ e ∈ h', row ∈ e.1.assetApprovals) ∧ row.assetId = asset.id ∧
        ∃ identity, actor = some identity ∧ row.requesterIdentityId = identity.id) →
          (k approvalRow).Yields Q R h') : (approvalOf env actor asset >>= k).Yields Q R h := by
  have hnone : (k none).Yields Q R h := hk none h (List.prefix_refl h) (by simp)
  cases actor with
  | none => exact hnone
  | some identity =>
    apply read_recalls hq hnone
    intro s
    refine hk _ _ (List.prefix_append _ _) fun row hrow => ?_
    obtain ⟨hmem, hactive⟩ := Table.newest_eq_some hrow
    simp only [isActiveApproval, Bool.and_eq_true, beq_iff_eq] at hactive
    obtain ⟨⟨⟨hasset, hrequester⟩, -⟩, -⟩ := hactive
    exact ⟨⟨(s, s), by simp, hmem⟩, hasset, identity, rfl, hrequester⟩

theorem decideTransfer_reads {user : PlatformUser} {granted : RolesAndPermissions} {asset : AssetRow}
    {actor recipient : Option IdentityRow} : (decideTransfer env user granted asset actor recipient).Yields
      Q (fun answer h' => ∀ p, answer = .ok p → ApprovalRead h' p) h := by
  apply reads_recalls hq (stepUpOf_audits actor asset)
  intro stepUpValid h₁ _
  apply approvalOf_reads hq
  intro approvalRow h₂ _ happroval
  apply reads_recalls hq (assessRisk_audits _ _)
  intro riskLevel h₃ hh₃
  refine .ite (fun _ => ?_) fun _ => ?_
  · apply auditTransfer_recalls hq
    intro h₄ _
    exact .fulfilled fun p hp => by cases hp
  · refine .fulfilled fun p hp row hrow => ?_
    obtain rfl := Except.ok.inj hp
    obtain ⟨⟨e, he, hmem⟩, hrest⟩ := happroval row hrow
    exact ⟨⟨e, hh₃.subset he, hmem⟩, hrest⟩

theorem prepare_reads {user : Option PlatformUser} {input : AuthorizeTransferInput} :
    (prepare env user input).Yields Q (fun answer h' => ∀ p, answer = .ok p → ApprovalRead h' p) h := by
  have hdenied : ∀ actor asset reason h', (denied env actor asset reason).Yields Q
      (fun answer h' => ∀ p, answer = .ok p → ApprovalRead h' p) h' := by
    intro actor asset reason h'
    apply auditTransfer_recalls hq
    intro h'' _
    exact .fulfilled fun p hp => by cases hp
  cases user with
  | none => exact .rejected _ _
  | some user =>
    refine found_recalls hq rfl (fun _ => .rejected _ _) fun s asset _ => ?_
    apply guard_recalls
    intro _
    apply identity_recalls hq rfl
    intro actor h₁ _ hactor
    apply reads_recalls hq (rolesAndPermissionsOf_audits actor)
    intro granted h₂ hh₂
    apply resolveRecipient_recalls hq fun identity hi => (hactor identity hi).mono hh₂.subset
    intro recipient h₃ _ _
    apply guard_recalls
    intro _
    apply identity_recalls hq rfl
    intro owner h₄ _ _
    refine .ite (fun _ => hdenied _ _ _ _) fun _ => .ite (fun _ => hdenied _ _ _ _) fun _ => ?_
    exact decideTransfer_reads hq

end

/-! ### The system -/

inductive ApprovalCall where
  | request (user : Option PlatformUser) (uuid : String) (input : RequestInput)
  | decide (user : Option PlatformUser) (input : DecideInput)
  | transfer (call : TransferCall)
  deriving DecidableEq

inductive ApprovalReply where
  | approval (row : AssetApprovalRow)
  | transfer (reply : TransferReply)
  deriving DecidableEq

/-- The rest of the application leaves the approvals alone. -/
def approvalSystem (env : Environment) : System ApprovalCall World Error ApprovalReply where
  body
    | .request user uuid input => do return .approval (← request env user uuid input)
    | .decide user input => do return .approval (← decide env user input)
    | .transfer call => do return .transfer (← authorizeTransfer env call.user call.input)
  interfere s t := t.assetApprovals = s.assetApprovals

abbrev ApprovalConfig := Config ApprovalCall World Error ApprovalReply

/-- What a statement of a call does to the approvals. -/
inductive Effect : ApprovalCall → List (World × World) → World → World → Prop
  | keeps {call h s t} (ht : t.assetApprovals = s.assetApprovals) : Effect call h s t
  | requests {user uuid input h s t} (row : AssetApprovalRow) (hpending : row.status = .pending)
    (hfresh : ∀ r ∈ s.assetApprovals, r.id ≠ row.id)
    (ht : t.assetApprovals = s.assetApprovals ++ [row]) : Effect (.request user uuid input) h s t
  | decides {user input h s} (actor : IdentityRow)
    (hseparated : Separated user input.approvalId actor h) : Effect (.decide (some user) input) h s
      (decideApprovalIn { approvalId := input.approvalId, status := input.decision } s)
  | marks {call h s} (row : AssetApprovalRow) (happroved : row.status = .approved)
    (hread : ∃ e ∈ h, row ∈ e.1.assetApprovals) :
    Effect (.transfer call) h s (markApprovalIn row.id s)

/-- The same, and only a prepared transfer is confirmed on the chain. -/
structure Does (env : Environment) (call : ApprovalCall) (h : List (World × World)) (s t : World) :
    Prop where
  effect : Effect call h s t
  mines : Mines s t → ∃ transfer p, call = .transfer transfer ∧ preparedBy env transfer h = some p ∧
    Allowed h p ∧ ApprovalRead h p

theorem Does.of_keeps {call : ApprovalCall} {s t : World} (hk : KeepsApprovals s t) :
    Does env call h s t :=
  ⟨.keeps hk.approvals, fun hm => absurd hm (not_mines_of_eq hk.ledger)⟩

theorem Does.of_audits {call : ApprovalCall} {s t : World} (ha : Audits s t) : Does env call h s t :=
  .of_keeps (.of_audits ha)

theorem request_recalls {user : Option PlatformUser} {uuid : String} {input : RequestInput} :
    (request env user uuid input).Recalls (Does env (.request user uuid input)) [] := by
  have hq : ∀ h s t, Audits s t → Does env (.request user uuid input) h s t := fun _ _ _ => .of_audits
  cases user with
  | none => exact .rejected _ _
  | some user =>
    refine found_recalls hq rfl (fun _ => .rejected _ _) fun s actor _ => ?_
    refine found_recalls hq rfl (fun _ => .rejected _ _) fun s' asset _ => ?_
    have hcreate : ∀ h', (createAssetApproval env uuid
        { assetId := asset.id
          requesterIdentityId := actor.id
          action := "TRANSFER"
          targetIdentityId := input.targetIdentityId }).Recalls
        (Does env (.request (some user) uuid input)) h' := by
      intro h'
      refine .ite (fun _ => .fulfilled trivial) fun _ => ?_
      apply Async.Recalls.bind
      · apply insert_recalls fun s => hq h' s s (Audits.refl s)
        intro s t ht
        rw [insertAssetApproval, Option.ite_none_left_eq_some, Option.some.injEq] at ht
        obtain ⟨hfresh, rfl⟩ := ht
        refine ⟨.requests _ rfl ?_ rfl, fun hm => absurd hm (not_mines_of_eq rfl)⟩
        simpa [assetApprovalRow] using hfresh
      · intro _ h'' _
        exact Async.yields_query (fun s => hq h'' s s (Audits.refl s)) fun _ => trivial
    have hnone : ∀ h', (createAssetApproval env uuid
        { assetId := asset.id
          requesterIdentityId := actor.id
          action := "TRANSFER"
          targetIdentityId := input.targetIdentityId } >>= fun approval =>
            match approval with
            | none => throw (.trpc .internalServerError "Approval could not be persisted")
            | some approval => do
              auditTransfer env (some actor) asset "APPROVAL_REQUESTED" .challenge
                s!"Approval requested for TRANSFER of {asset.classification.label} asset"
              pure approval).Recalls (Does env (.request (some user) uuid input)) h' := by
      intro h'
      apply (hcreate h').bind
      intro approval h'' _
      cases approval with
      | none => exact .rejected _ _
      | some approval =>
        apply auditTransfer_recalls (hq ·)
        intro _ _
        exact .fulfilled trivial
    exact found_recalls hq rfl hnone fun s existing _ => .fulfilled trivial

theorem decide_recalls {user : Option PlatformUser} {input : DecideInput} :
    (decide env user input).Recalls (Does env (.decide user input)) [] := by
  have hq : ∀ h s t, Audits s t → Does env (.decide user input) h s t := fun _ _ _ => .of_audits
  cases user with
  | none => exact .rejected _ _
  | some user =>
    refine found_recalls hq rfl (fun _ => .rejected _ _) fun s actor hactor => ?_
    refine found_recalls hq rfl (fun _ => .rejected _ _) fun s' approval happroval => ?_
    apply granted_yields hq
    intro granted h₁ hh₁ hgranted
    apply granted_yields hq
    intro again h₂ hh₂ hagain
    refine .ite (fun _ => ?_) fun hmay => .ite (fun _ => .rejected _ _) fun hrequester => ?_
    · apply reads_recalls hq (createAuditEvent_audits env _)
      intro _ h₃ _
      exact .rejected _ _
    have hseparated : Separated user input.approvalId actor h₂ := by
      have hlinked := List.find?_some hactor
      have hid := List.find?_some happroval
      have hpast := (hh₁.trans hh₂).subset
      constructor
      · exact ⟨(s, s), hpast (by simp), List.mem_of_find?_eq_some hactor⟩
      · simpa using hlinked
      · exact mayDecide_of_granted (hgranted.mono hh₂.subset) hagain (not_not.mp hmay)
      · exact ⟨approval, by simpa using hid, hrequester,
          (s', s'), hpast (by simp), List.mem_of_find?_eq_some happroval⟩
    have hupdate : (updateAssetApprovalStatus env
        { approvalId := input.approvalId, status := input.decision }).Recalls
          (Does env (.decide (some user) input)) h₂ := by
      refine .ite (fun _ => .fulfilled trivial) fun _ => ?_
      apply Async.yields_statement_bind
      · exact fun s => ⟨.decides actor hseparated, fun hm => absurd hm (not_mines_of_eq rfl)⟩
      · intro s
        refine .ite (fun _ => .fulfilled trivial) fun _ => ?_
        exact .ite (fun _ => .fulfilled trivial) fun _ =>
          Async.yields_query (fun s => hq _ s s (Audits.refl s)) fun _ => trivial
    apply hupdate.bind
    intro updated h₃ _
    cases updated with
    | none => exact .rejected _ _
    | some updated =>
      cases hdecision : input.decision with
      | approved =>
        simp only [auditDecided, hdecision]
        apply reads_recalls hq (createAuditEvent_audits env _)
        exact fun _ _ _ => .fulfilled trivial
      | rejected =>
        simp only [auditDecided, hdecision]
        apply reads_recalls hq (createAuditEvent_audits env _)
        exact fun _ _ _ => .fulfilled trivial

theorem ApprovalRead.mono {p : Prepared} (ha : ApprovalRead h p) (hh : h ⊆ h') : ApprovalRead h' p := by
  intro row hrow
  obtain ⟨⟨e, he, hmem⟩, hrest⟩ := ha row hrow
  exact ⟨⟨e, hh he, hmem⟩, hrest⟩

/-- A call that has no APPROVED approval marks none. -/
theorem executeTransfer_eq {p : Prepared}
    (happroval : ∀ row, p.approvalRow = some row → row.status ≠ .approved) :
    executeTransfer env p = executeTransfer env { p with approvalRow := none } := by
  have hconsume : consumeApproval env p.approvalRow = consumeApproval env none := by
    cases hrow : p.approvalRow with
    | none => rfl
    | some row => exact if_neg (happroval row hrow)
  have hcomplete : ∀ transactionHash, completeTransfer env p transactionHash =
      completeTransfer env { p with approvalRow := none } transactionHash := by
    intro transactionHash
    simp only [completeTransfer, hconsume]
  have hsubmit : ∀ besu wallet, submitTransfer env besu p wallet =
      submitTransfer env besu { p with approvalRow := none } wallet := by
    intro besu wallet
    simp only [submitTransfer, hcomplete]
    rfl
  simp only [executeTransfer, hsubmit]

theorem transfer_recalls {call : TransferCall} :
    (authorizeTransfer env call.user call.input).Recalls (Does env (.transfer call)) [] := by
  have hq : ∀ h s t, KeepsApprovals s t → Does env (.transfer call) h s t := fun _ _ _ => .of_keeps
  have haudits : ∀ h s t, Audits s t → Does env (.transfer call) h s t := fun _ _ _ => .of_audits
  apply ((prepare_yields haudits).and (prepare_reads haudits)).after.bind
  rintro answer h₁ ⟨hafter, hallowed, hread⟩
  cases answer with
  | error reply => exact .fulfilled trivial
  | ok p =>
    have hprepared : preparedBy env call h₁ = some p := by simp only [preparedBy, hafter]
    have hsubmit : ∀ besu wallet h' s, h₁ <+: h' → Does env (.transfer call) h' s
        (Besu.submitIn besu (.transferAsset p.asset.assetId wallet) s).2 := by
      intro besu wallet h' s hh
      exact ⟨.keeps rfl, fun _ => ⟨call, p, rfl, preparedBy_mono hprepared hh,
        (hallowed p rfl).mono hh.subset, (hread p rfl).mono hh.subset⟩⟩
    change (executeTransfer env p).Recalls _ h₁
    by_cases happroval : ∃ row, p.approvalRow = some row ∧ row.status = .approved
    · obtain ⟨row, hrow, hstatus⟩ := happroval
      obtain ⟨hmem, -⟩ := hread p rfl row hrow
      apply Async.Recalls.since
      apply executeTransfer_recalls
      · exact fun h' s t hk _ => hq h' s t hk
      · exact fun besu wallet h' s _ _ hh _ => hsubmit besu wallet h' s hh
      · intro row' h' s hrow' hh
        obtain rfl : row' = row := Option.some.inj (hrow'.symm.trans hrow)
        obtain ⟨e, he, hrest⟩ := hmem
        exact ⟨.marks row' hstatus ⟨e, hh.subset he, hrest⟩,
          fun hm => absurd hm (not_mines_of_eq (markApprovalIn_ledger s))⟩
    · rw [executeTransfer_eq fun row hrow hstatus => happroval ⟨row, hrow, hstatus⟩]
      apply executeTransfer_recalls hq
      · exact fun besu wallet h' s _ _ hh => hsubmit besu wallet h' s hh
      · exact fun row h' s hrow => absurd hrow (by simp)

theorem approval_recalls (env : Environment) (call : ApprovalCall) :
    ((approvalSystem env).body call).Recalls (Does env call) [] := by
  cases call with
  | request user uuid input => exact request_recalls.bind fun _ _ _ => .fulfilled trivial
  | decide user input => exact decide_recalls.bind fun _ _ _ => .fulfilled trivial
  | transfer call => exact transfer_recalls.bind fun _ _ _ => .fulfilled trivial

end Sampraan.Assets.Approvals
