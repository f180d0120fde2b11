import Sampraan.Assets.AuthorizeTransfer

/-!
`authorizeTransfer` as a system: which statements of a call hand a transfer to
the node or mark an approval, and what the call has prepared by then.
-/

namespace Sampraan.Assets

open Backend Library
open Governance (Audits audit_recalls query_recalls read_recalls found_recalls guard_recalls
  createAuditEvent_audits persistAnchorAudit_audits getIdentityRoles_audits)

/-! ### What a call has found -/

def Found (h : List (World × World)) (identity : IdentityRow) : Prop :=
  ∃ e ∈ h, identity ∈ e.1.identities

/-- The policy has allowed the transfer, on what the call has read. -/
structure Allowed (h : List (World × World)) (p : Prepared) : Prop where
  recipient : ∀ identity, p.recipient = some identity → Found h identity
  approval : isSensitive p.asset.classification = true → ∃ row, p.approvalRow = some row ∧
    row.status = .approved ∧ approvalMatchesTarget (some row) p.recipient = true ∧
      ∃ e ∈ h, row ∈ e.1.assetApprovals

variable {env : Environment} {h h' : List (World × World)} {p : Prepared}

theorem Found.mono {identity : IdentityRow} (hf : Found h identity) (hh : h ⊆ h') :
    Found h' identity := by
  obtain ⟨e, he, hmem⟩ := hf
  exact ⟨e, hh he, hmem⟩

theorem Allowed.mono (ha : Allowed h p) (hh : h ⊆ h') : Allowed h' p := by
  refine ⟨fun identity hi => (ha.recipient identity hi).mono hh, fun hsensitive => ?_⟩
  obtain ⟨row, hrow, hstatus, hmatches, e, he, hmem⟩ := ha.approval hsensitive
  exact ⟨row, hrow, hstatus, hmatches, e, hh he, hmem⟩

/-! ### The reads of the decision -/

section

variable {α : Type} {Q : List (World × World) → World → World → Prop}
  {R : α → List (World × World) → Prop} (hq : ∀ h s t, Audits s t → Q h s t)

include hq

/-- A part of the call that only reads, or appends to the audit trail. -/
theorem reads_recalls {β : Type} {p : Promise β} {k : β → Promise α}
    (hp : p.Obeys (fun _ => True) Audits) (hk : ∀ b h', h <+: h' → (k b).Yields Q R h') :
    (p >>= k).Yields Q R h := by
  apply (hp.yields hq h).bind
  exact fun b h' hh => hk b h' hh.1

omit hq in
theorem rolesAndPermissionsOf_audits (actor : Option IdentityRow) :
    (rolesAndPermissionsOf env actor).Obeys (fun _ => True) Audits := by
  cases actor with
  | none => exact Async.obeys_pure _
  | some identity =>
    refine .ite (Async.obeys_pure _) ?_
    apply (getIdentityRoles_audits env _).bind
    intro roles
    refine .ite (Async.obeys_pure _) ?_
    exact (Async.obeys_query Audits.refl).bind fun _ => Async.obeys_pure _

omit hq in
theorem stepUpOf_audits (actor : Option IdentityRow) (asset : AssetRow) :
    (stepUpOf env actor asset).Obeys (fun _ => True) Audits := by
  cases actor with
  | none => exact Async.obeys_pure _
  | some identity => exact .ite (Async.obeys_pure _) (Async.obeys_query Audits.refl)

omit hq in
theorem assessRisk_audits (identityId : Option String) (classification : AssetClassification) :
    (assessRisk env identityId classification).Obeys (fun _ => True) Audits := by
  cases identityId with
  | none => exact Async.obeys_pure _
  | some id =>
    apply Async.Obeys.bind
    · exact .ite (Async.obeys_pure _) (Async.obeys_query Audits.refl)
    · exact fun events => Async.obeys_pure _

theorem auditTransfer_recalls {actor : Option IdentityRow} {asset : AssetRow} {action reason : String}
    {decision : AuditDecision} {k : Unit → Promise α} (hk : ∀ h', h <+: h' → (k ()).Yields Q R h') :
    (auditTransfer env actor asset action decision reason >>= k).Yields Q R h :=
  reads_recalls hq (createAuditEvent_audits env _) fun _ => hk

/-- An identity that a read has given, the call has found. -/
theorem identity_recalls {p : Promise (Option IdentityRow)} {f : IdentityRow → Bool}
    {k : Option IdentityRow → Promise α}
    (hp : p = if !env.databaseConfigured then pure none else
      Async.query fun w => w.identities.find? f)
    (hk : ∀ found h', h <+: h' → (∀ identity, found = some identity → Found h' identity) →
      (k found).Yields Q R h') : (p >>= k).Yields Q R h := by
  rw [hp]
  apply read_recalls hq
  · exact hk none h (List.prefix_refl h) (by simp)
  · intro s
    refine hk _ _ (List.prefix_append _ _) fun identity hf => ?_
    exact ⟨(s, s), by simp, List.mem_of_find?_eq_some hf⟩

theorem resolveRecipient_recalls {actor : Option IdentityRow} {recipientIdentityId : Option String}
    {k : Option IdentityRow → Promise α}
    (hactor : ∀ identity, actor = some identity → Found h identity)
    (hk : ∀ recipient h', h <+: h' → (∀ identity, recipient = some identity → Found h' identity) →
      (k recipient).Yields Q R h') :
    (resolveRecipient env actor recipientIdentityId >>= k).Yields Q R h := by
  cases recipientIdentityId with
  | none => exact hk actor h (List.prefix_refl h) hactor
  | some id => exact identity_recalls hq rfl hk

theorem approvalOf_recalls {actor : Option IdentityRow} {asset : AssetRow}
    {k : Option AssetApprovalRow → Promise α}
    (hk : ∀ approvalRow h', h <+: h' →
      (∀ row, approvalRow = some row → ∃ e ∈ h', row ∈ e.1.assetApprovals) →
        (k approvalRow).Yields Q R h') : (approvalOf env actor asset >>= k).Yields Q R h := by
  have hnone : (k none).Yields Q R h := hk none h (List.prefix_refl h) (by simp)
  cases actor with
  | none => exact hnone
  | some identity =>
    apply read_recalls hq hnone
    intro s
    refine hk _ _ (List.prefix_append _ _) fun row hrow => ?_
    exact ⟨(s, s), by simp, (Table.newest_eq_some hrow).1⟩

omit hq in
/-- What an allowed transfer of a sensitive asset rests on. -/
theorem approval_of_allow {user : PlatformUser} {granted : RolesAndPermissions} {asset : AssetRow}
    {actor recipient : Option IdentityRow} {stepUpValid : Bool}
    {approvalRow : Option AssetApprovalRow} {riskLevel : RiskLevel}
    (hallow : (evaluate (transferRequest user granted asset actor recipient stepUpValid approvalRow
      riskLevel)).decision = .allow) (hsensitive : isSensitive asset.classification = true) :
    ∃ row, approvalRow = some row ∧ row.status = .approved ∧
      approvalMatchesTarget (some row) recipient = true := by
  have happroval := (evaluate_allow hallow).2 rfl hsensitive
  simp only [transferRequest, Option.ite_none_right_eq_some, Option.map_eq_some_iff] at happroval
  obtain ⟨hmatches, row, rfl, hstatus⟩ := happroval
  exact ⟨row, rfl, hstatus, hmatches⟩

theorem denied_yields {actor : Option IdentityRow} {asset : AssetRow} {reason : String} :
    (denied env actor asset reason).Yields Q (fun answer h' => ∀ p, answer = .ok p → Allowed h' p)
      h := by
  apply auditTransfer_recalls hq
  intro h' _
  exact .fulfilled fun p hp => by cases hp

theorem decideTransfer_yields {user : PlatformUser} {granted : RolesAndPermissions}
    {asset : AssetRow} {actor recipient : Option IdentityRow}
    (hrecipient : ∀ identity, recipient = some identity → Found h identity) :
    (decideTransfer env user granted asset actor recipient).Yields Q
      (fun answer h' => ∀ p, answer = .ok p → Allowed h' p) h := by
  apply reads_recalls hq (stepUpOf_audits actor asset)
  intro stepUpValid h₁ hh₁
  apply approvalOf_recalls hq
  intro approvalRow h₂ hh₂ happroval
  apply reads_recalls hq (assessRisk_audits _ _)
  intro riskLevel h₃ hh₃
  refine .ite (fun _ => ?_) fun hallow => ?_
  · apply auditTransfer_recalls hq
    intro h₄ _
    exact .fulfilled fun p hp => by cases hp
  · refine .fulfilled fun p hp => ?_
    obtain rfl := Except.ok.inj hp
    refine ⟨fun identity hi => (hrecipient identity hi).mono ((hh₁.trans hh₂).trans hh₃).subset,
      fun hsensitive => ?_⟩
    obtain ⟨row, hrow, hstatus, hmatches⟩ := approval_of_allow (not_not.mp hallow) hsensitive
    obtain ⟨e, he, hmem⟩ := happroval row hrow
    exact ⟨row, hrow, hstatus, hmatches, e, hh₃.subset he, hmem⟩

theorem prepare_yields {user : Option PlatformUser} {input : AuthorizeTransferInput} :
    (prepare env user input).Yields Q (fun answer h' => ∀ p, answer = .ok p → Allowed h' p) h := by
  cases user with
  | none => exact .rejected _ _
  | some user =>
    refine found_recalls hq rfl (fun _ => .rejected _ _) fun s asset _ => ?_
    apply guard_recalls
    intro _
    apply identity_recalls hq rfl
    intro actor h₁ _ hactor
    apply reads_recalls hq (rolesAndPermissionsOf_audits actor)
    intro granted h₂ hh₂
    apply resolveRecipient_recalls hq fun identity hi => (hactor identity hi).mono hh₂.subset
    intro recipient h₃ _ hrecipient
    apply guard_recalls
    intro _
    apply identity_recalls hq rfl
    intro owner h₄ hh₄ _
    refine .ite (fun _ => denied_yields hq) fun _ => .ite (fun _ => denied_yields hq) fun _ => ?_
    exact decideTransfer_yields hq fun identity hi => (hrecipient identity hi).mono hh₄.subset

end

/-! ### The transfer -/

/-- The step hands nothing to the node and writes no approval. -/
structure KeepsApprovals (s t : World) : Prop where
  ledger : t.ledger = s.ledger
  approvals : t.assetApprovals = s.assetApprovals

theorem KeepsApprovals.of_audits {s t : World} (h : Audits s t) : KeepsApprovals s t := by
  obtain ⟨rows, rfl⟩ := h
  exact ⟨rfl, rfl⟩

theorem keepsApprovals_custody (assetRowId newCustodianIdentityId : String) (s : World) :
    KeepsApprovals s (transferCustodyIn assetRowId newCustodianIdentityId s) := by
  unfold transferCustodyIn
  split
  · exact ⟨rfl, rfl⟩
  · exact ⟨rfl, rfl⟩

section

variable {α : Type} {Q : List (World × World) → World → World → Prop}
  {R : α → List (World × World) → Prop} (hq : ∀ h s t, KeepsApprovals s t → Q h s t)

include hq

theorem commitCustodyTransfer_recalls {assetRowId newCustodianIdentityId : String} :
    (commitCustodyTransfer env assetRowId newCustodianIdentityId).Recalls Q h := by
  refine .ite (fun _ => .fulfilled trivial) fun _ => ?_
  apply Async.yields_statement_bind fun s => hq _ _ _ (keepsApprovals_custody _ _ s)
  intro s
  refine .ite (fun _ => .fulfilled trivial) fun _ => ?_
  exact Async.yields_query (fun s => hq _ _ _ ⟨rfl, rfl⟩) fun _ => trivial

theorem consumeApproval_recalls {approvalRow : Option AssetApprovalRow}
    (hmark : ∀ row h' s, approvalRow = some row → Q h' s (markApprovalIn row.id s)) :
    (consumeApproval env approvalRow).Recalls Q h := by
  cases approvalRow with
  | none => exact .fulfilled trivial
  | some row =>
    refine .ite (fun _ => .ite (fun _ => .fulfilled trivial) fun _ => ?_) fun _ => .fulfilled trivial
    apply Async.yields_statement_bind fun s => hmark row h s rfl
    intro s
    exact Async.yields_query (fun s => hq _ _ _ ⟨rfl, rfl⟩) fun _ => trivial

theorem completeTransfer_recalls {transactionHash : String}
    (hmark : ∀ row h' s, p.approvalRow = some row → Q h' s (markApprovalIn row.id s)) :
    (completeTransfer env p transactionHash).Recalls Q h := by
  have haudits : ∀ h s t, Audits s t → Q h s t := fun h s t ht => hq h s t (.of_audits ht)
  apply auditTransfer_recalls haudits
  intro h₁ _
  apply (consumeApproval_recalls hq hmark).bind
  intro _ h₂ _
  apply (commitCustodyTransfer_recalls hq).bind
  intro custodianUpdate h₃ _
  refine .ite (fun _ => ?_) fun _ => .fulfilled trivial
  apply auditTransfer_recalls haudits
  intro h₄ _
  exact .fulfilled trivial

theorem custodyUnchanged_recalls : (custodyUnchanged env p).Recalls Q h := by
  apply auditTransfer_recalls fun h s t ht => hq h s t (.of_audits ht)
  intro h' _
  exact .fulfilled trivial

theorem submitTransfer_recalls {besu : BesuConfig} {wallet : String}
    (hsubmit : ∀ h' s, h <+: h' →
      Q h' s (Besu.submitIn besu (.transferAsset p.asset.assetId wallet) s).2)
    (hmark : ∀ row h' s, p.approvalRow = some row → Q h' s (markApprovalIn row.id s)) :
    (submitTransfer env besu p wallet).Recalls Q h := by
  have hread : ∀ h s, Q h s s := fun h s => hq h s s ⟨rfl, rfl⟩
  have hcustodian : (tryCatch (Besu.getAsset besu p.asset.assetId) fun _ => pure none :
      Promise (Option LedgerAsset)).Recalls Q h := by
    apply ((Besu.getAsset_yields hread).weaken fun _ _ _ => trivial).recover
    intro error h' _
    exact .fulfilled trivial
  apply (hcustodian.extends).bind
  rintro onChainAsset h₁ ⟨hh₁, -⟩
  refine .ite (fun _ => custodyUnchanged_recalls hq) fun _ => ?_
  have htransfer : (trySubmit besu p.asset.assetId wallet).Recalls Q h₁ := by
    apply Async.Yields.recover
    · apply (Besu.transferAsset_yields hread fun h' s hh => hsubmit h' s (hh₁.trans hh)).bind
      intro transactionHash h' _
      exact .fulfilled trivial
    · intro error h' _
      exact .fulfilled trivial
  apply htransfer.bind
  intro outcome h₂ _
  cases outcome with
  | error error =>
    refine .ite (fun _ => custodyUnchanged_recalls hq) fun _ => ?_
    apply auditTransfer_recalls fun h s t ht => hq h s t (.of_audits ht)
    intro h₃ _
    exact .rejected _ _
  | ok transactionHash => exact completeTransfer_recalls hq hmark

theorem executeTransfer_recalls
    (hsubmit : ∀ besu wallet h' s, env.besu = some besu →
      toCustodianWallet env besu p.recipient = some wallet → h <+: h' →
        Q h' s (Besu.submitIn besu (.transferAsset p.asset.assetId wallet) s).2)
    (hmark : ∀ row h' s, p.approvalRow = some row → Q h' s (markApprovalIn row.id s)) :
    (executeTransfer env p).Recalls Q h := by
  have haudits : ∀ h s t, Audits s t → Q h s t := fun h s t ht => hq h s t (.of_audits ht)
  unfold executeTransfer
  cases hbesu : env.besu with
  | none =>
    apply auditTransfer_recalls haudits
    intro h₁ _
    exact .rejected _ _
  | some besu =>
    have hanchor : (anchorRecipient env besu p.recipient).Obeys (fun _ => True) Audits := by
      cases p.recipient with
      | none => exact Async.obeys_pure _
      | some recipient => exact .ite (Async.obeys_pure _) (persistAnchorAudit_audits env _ _)
    apply reads_recalls haudits hanchor
    intro _ h₁ hh₁
    cases hwallet : toCustodianWallet env besu p.recipient with
    | none =>
      apply auditTransfer_recalls haudits
      intro h₂ _
      exact .rejected _ _
    | some wallet =>
      apply submitTransfer_recalls hq _ hmark
      exact fun h' s hh => hsubmit besu wallet h' s hbesu hwallet (hh₁.trans hh)

end

/-! ### The system -/

structure TransferCall where
  user : Option PlatformUser
  input : AuthorizeTransferInput
  deriving DecidableEq

/-- The rest of the application keeps every approval with the recipient it was granted for, and
an EXECUTED one EXECUTED. -/
structure ApprovalEvolves (r r' : AssetApprovalRow) : Prop where
  id : r'.id = r.id
  target : r'.targetIdentityId = r.targetIdentityId
  executed : r.status = .executed → r'.status = .executed

abbrev ApprovalsEvolve (s t : World) : Prop :=
  Table.Evolves AssetApprovalRow.id ApprovalEvolves s.assetApprovals t.assetApprovals

def transferSystem (env : Environment) : System TransferCall World Error TransferReply where
  body call := authorizeTransfer env call.user call.input
  interfere := ApprovalsEvolve

abbrev TransferConfig := Config TransferCall World Error TransferReply

/-- What `prepare` has given the call with this past. -/
def preparedBy (env : Environment) (call : TransferCall) (h : List (World × World)) :
    Option Prepared :=
  match (prepare env call.user call.input).after h with
  | .fulfilled (.ok p) => some p
  | _ => none

/-- The statement is the call's transaction. -/
def Submission (env : Environment) (call : TransferCall) (h : List (World × World))
    (s t : World) : Prop :=
  ∃ besu p wallet, preparedBy env call h = some p ∧ Allowed h p ∧ env.besu = some besu ∧
    toCustodianWallet env besu p.recipient = some wallet ∧
      t = (Besu.submitIn besu (.transferAsset p.asset.assetId wallet) s).2

def TransferCall.Effect (env : Environment) (call : TransferCall) (h : List (World × World))
    (s t : World) : Prop :=
  KeepsApprovals s t ∨ (∃ approvalId, t = markApprovalIn approvalId s) ∨ Submission env call h s t

theorem preparedBy_mono {call : TransferCall} (hp : preparedBy env call h = some p) (hh : h <+: h') :
    preparedBy env call h' = some p := by
  simp only [preparedBy] at hp
  split at hp
  · rename_i p' hafter
    obtain rfl := Option.some.inj hp
    simp only [preparedBy, Async.after_mono hafter hh]
  · cases hp

theorem transfer_recalls (env : Environment) (call : TransferCall) :
    ((transferSystem env).body call).Recalls (call.Effect env) [] := by
  have hq : ∀ h s t, KeepsApprovals s t → call.Effect env h s t := fun _ _ _ => .inl
  apply (prepare_yields fun h s t ht => hq h s t (.of_audits ht)).after.bind
  rintro answer h₁ ⟨hafter, hallowed⟩
  cases answer with
  | error reply => exact .fulfilled trivial
  | ok p =>
    have hprepared : preparedBy env call h₁ = some p := by simp only [preparedBy, hafter]
    apply executeTransfer_recalls hq
    · intro besu wallet h' s hbesu hwallet hh
      exact .inr (.inr ⟨besu, p, wallet, preparedBy_mono hprepared hh,
        (hallowed p rfl).mono hh.subset, hbesu, hwallet, rfl⟩)
    · exact fun row h' s _ => .inr (.inl ⟨row.id, rfl⟩)

end Sampraan.Assets
