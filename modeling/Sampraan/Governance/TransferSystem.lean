import Sampraan.Governance.Transfer

/-!
The transfer procedures as one system: which statements write transfer requests
or hand a transaction to the chain, and what their calls have found by then.
-/

namespace Sampraan.Governance.Transfer

open Backend Library
open CryptoAssurance (Actor)

/-! ### What a call has found -/

def RequestRead (requestId : String) (h : List (World × World)) (request : AssetTransferRequestRow) :
    Prop :=
  ∃ e ∈ h, e.1.assetTransferRequests.find? (·.id == requestId) = some request

/-- An ADMIN, or a MANAGER whose scope the sender's row matches. -/
def Approver (h : List (World × World)) (actor : Actor) (request : AssetTransferRequestRow) : Prop :=
  hasRole actor "ADMIN" = true ∨ hasRole actor "MANAGER" = true ∧ ∃ e ∈ h, ∃ sender,
    e.1.identities.find? (·.id == request.fromIdentityId) = some sender ∧
      matchesScope actor sender = true

structure Accepts (user : Option ℕ) (input : RequestId) (h : List (World × World)) (actor : Actor)
    (request : AssetTransferRequestRow) : Prop where
  actorRead : ActorRead user h actor
  requestRead : RequestRead input.requestId h request
  recipient : request.toIdentityId = actor.identity.id
  pending : request.status = .pending

structure Decides (user : Option ℕ) (input : ApproveInput) (h : List (World × World)) (actor : Actor)
    (request : AssetTransferRequestRow) : Prop where
  actorRead : ActorRead user h actor
  requestRead : RequestRead input.requestId h request
  accepted : request.status = .accepted
  notSender : request.fromIdentityId ≠ actor.identity.id
  notRecipient : request.toIdentityId ≠ actor.identity.id
  approver : Approver h actor request

/-- The checks of `execute`: the sender is the custodian and the recipient is VERIFIED. -/
structure Checks (input : RequestId) (h : List (World × World)) (request : AssetTransferRequestRow)
    (asset : AssetRow) (recipient : IdentityRow) : Prop where
  requestRead : RequestRead input.requestId h request
  approved : request.status = .approved
  assetRead : ∃ e ∈ h, e.1.assets.find? (·.id == request.assetId) = some asset
  custodian : asset.custodianIdentityId = request.fromIdentityId
  recipientRead : ∃ e ∈ h, e.1.identities.find? (·.id == request.toIdentityId) = some recipient
  verified : recipient.lifecycleState = .verified

variable {env : Environment} {h h' : List (World × World)} {request : AssetTransferRequestRow}
  {actor : Actor}

theorem RequestRead.mono {requestId : String} (hr : RequestRead requestId h request)
    (hh : h ⊆ h') : RequestRead requestId h' request := by
  obtain ⟨e, he, hf⟩ := hr
  exact ⟨e, hh he, hf⟩

theorem RequestRead.id_eq {requestId : String} (hr : RequestRead requestId h request) :
    request.id = requestId := by
  obtain ⟨e, -, hf⟩ := hr
  simpa using List.find?_some hf

theorem Approver.mono (ha : Approver h actor request) (hh : h ⊆ h') : Approver h' actor request := by
  refine ha.imp_right fun hm => ⟨hm.1, ?_⟩
  obtain ⟨e, he, hf⟩ := hm.2
  exact ⟨e, hh he, hf⟩

theorem Accepts.mono {user : Option ℕ} {input : RequestId} (ha : Accepts user input h actor request)
    (hh : h ⊆ h') : Accepts user input h' actor request :=
  ⟨ha.actorRead.mono hh, ha.requestRead.mono hh, ha.recipient, ha.pending⟩

theorem Decides.mono {user : Option ℕ} {input : ApproveInput}
    (hd : Decides user input h actor request) (hh : h ⊆ h') : Decides user input h' actor request :=
  ⟨hd.actorRead.mono hh, hd.requestRead.mono hh, hd.accepted, hd.notSender, hd.notRecipient,
    hd.approver.mono hh⟩

theorem Checks.mono {input : RequestId} {asset : AssetRow} {recipient : IdentityRow}
    (hc : Checks input h request asset recipient) (hh : h ⊆ h') :
    Checks input h' request asset recipient := by
  obtain ⟨ea, hea, hfa⟩ := hc.assetRead
  obtain ⟨er, her, hfr⟩ := hc.recipientRead
  exact ⟨hc.requestRead.mono hh, hc.approved, ⟨ea, hh hea, hfa⟩, hc.custodian, ⟨er, hh her, hfr⟩,
    hc.verified⟩

/-! ### The procedures -/

/-- The step writes no transfer request and hands no transaction to the chain. -/
structure KeepsTransfers (s t : World) : Prop where
  requests : t.assetTransferRequests = s.assetTransferRequests
  ledger : t.ledger = s.ledger

theorem KeepsTransfers.refl (s : World) : KeepsTransfers s s := ⟨rfl, rfl⟩

theorem KeepsTransfers.of_audits {s t : World} (h : Audits s t) : KeepsTransfers s t := by
  obtain ⟨rows, rfl⟩ := h
  exact ⟨rfl, rfl⟩

/-- Where the recipient's tokens are held on the chain. -/
def recipientWallet (env : Environment) (besu : BesuConfig) (recipient : IdentityRow) : String :=
  deriveIdentityWallet env (besu.privateKey.getD "") recipient.did

section

variable {α : Type} {Q : List (World × World) → World → World → Prop}
  (hq : ∀ h s t, Audits s t → Q h s t)

include hq

theorem auditTransfer_recalls {action resourceId reason : String} {k : Unit → Promise α}
    {R : α → List (World × World) → Prop} (hk : ∀ h', h ⊆ h' → (k ()).Yields Q R h') :
    (auditTransfer env actor action resourceId reason >>= k).Yields Q R h :=
  audit_recalls hq (audit_audits env _ _ _ _ _ _) hk

theorem updateAssetTransferRequest_recalls {id : String}
    {patch : AssetTransferRequestRow → AssetTransferRequestRow}
    (hw : ∀ s, Q h s (updateTransferRequests id patch s)) :
    (updateAssetTransferRequest env id patch).Recalls Q h := by
  refine .ite (fun _ => .fulfilled trivial) fun _ => ?_
  apply Async.yields_statement_bind hw
  intro s
  exact .pending (fun s => hq _ _ _ (.refl s)) fun s => .fulfilled trivial

theorem hasOpenDispute_recalls {assetRowId : String} {k : Promise α}
    {R : α → List (World × World) → Prop} (hk : ∀ h', h ⊆ h' → k.Yields Q R h') :
    (do if ← hasOpenDispute env assetRowId then throw onHold else k : Promise α).Yields Q R h := by
  unfold hasOpenDispute listOpenDisputesForAsset
  rw [Async.bind_assoc]
  apply read_recalls hq
  · exact hk h (List.Subset.refl h)
  · intro s
    exact .ite (fun _ => .rejected _ _) fun _ => hk _ (List.subset_append_left _ _)

theorem accept_recalls {user : Option ℕ} {input : RequestId}
    (hw : ∀ actor request h' s, Accepts user input h' actor request →
      Q h' s (updateTransferRequests input.requestId acceptedPatch s)) :
    (accept env user input).Recalls Q h := by
  apply requireActor_recalls hq
  intro actor h₁ _ hactor _
  refine found_recalls hq rfl (fun _ => .rejected _ _) fun s request hf => ?_
  apply guard_recalls
  intro hrecipient
  apply guard_recalls
  intro hpending
  have haccepts : Accepts user input (h₁ ++ [(s, s)]) actor request :=
    ⟨hactor.mono (List.subset_append_left _ _), ⟨(s, s), by simp, hf⟩, not_not.mp hrecipient,
      not_not.mp hpending⟩
  apply (updateAssetTransferRequest_recalls hq fun s' => hw actor request _ s' haccepts).bind
  intro updated h₂ _
  apply auditTransfer_recalls hq
  intro h₃ _
  exact .fulfilled trivial

theorem assertApprover_yields : (assertApprover env actor request).Yields Q
    (fun _ h' => h ⊆ h' ∧ Approver h' actor request) h := by
  refine .ite (fun hadmin => .fulfilled ⟨List.Subset.refl h, .inl hadmin⟩) fun _ => ?_
  refine .ite (fun hmanager => ?_) fun _ => .rejected _ _
  unfold getIdentityById selectIdentityById
  split
  · exact .rejected _ _
  refine .pending (fun s => hq _ _ _ (.refl s)) fun s => ?_
  simp only
  cases hf : s.identities.find? (·.id == request.fromIdentityId) with
  | none => exact .rejected _ _
  | some sender =>
    refine .ite (fun hmatches => .fulfilled ⟨List.subset_append_left _ _, .inr ⟨hmanager, ?_⟩⟩)
      fun _ => .rejected _ _
    exact ⟨(s, s), by simp, sender, hf, hmatches⟩

theorem approve_yields {user : Option ℕ} {input : ApproveInput}
    (hw : ∀ actor request h' s, Decides user input h' actor request →
      Q h' s (updateTransferRequests input.requestId (decidedPatch actor input) s)) :
    (approve env user input).Yields Q
      (fun _ h' => ∃ actor request, Decides user input h' actor request) h := by
  apply requireActor_recalls hq
  intro actor h₁ _ hactor _
  refine found_recalls hq rfl (fun _ => .rejected _ _) fun s request hf => ?_
  apply guard_recalls
  intro haccepted
  apply guard_recalls
  intro hparties
  obtain ⟨hsender, hrecipient⟩ := not_or.mp hparties
  apply (assertApprover_yields hq).bind
  rintro _ h₂ ⟨hh₂, happrover⟩
  have hdecides : Decides user input h₂ actor request :=
    ⟨hactor.mono (List.Subset.trans (List.subset_append_left _ _) hh₂),
      RequestRead.mono ⟨(s, s), by simp, hf⟩ hh₂, not_not.mp haccepted, hsender, hrecipient,
      happrover⟩
  apply hasOpenDispute_recalls hq
  intro h₃ hh₃
  apply (updateAssetTransferRequest_recalls hq
    fun s' => hw actor request _ s' (hdecides.mono hh₃)).bind
  intro updated h₄ hh₄
  apply auditTransfer_recalls hq
  intro h₅ hh₅
  exact .fulfilled ⟨actor, request,
    hdecides.mono (List.Subset.trans hh₃ (List.Subset.trans hh₄ hh₅))⟩

theorem request_recalls {user : Option ℕ} {uuid : String} {input : RequestInput}
    (hw : ∀ h' s t row, insertAssetTransferRequest (assetTransferRequestRow uuid row) s = some t →
      Q h' s t) : (Transfer.request env user uuid input).Recalls Q h := by
  apply requireActor_recalls hq
  intro actor h₁ _ _ _
  refine found_recalls hq rfl (fun _ => .rejected _ _) fun s asset _ => ?_
  apply guard_recalls
  intro _
  apply guard_recalls
  intro _
  apply hasOpenDispute_recalls hq
  intro h₂ _
  apply requireTarget_recalls hq
  intro recipient h₃ _ _
  apply guard_recalls
  intro _
  apply guard_recalls
  intro _
  have hcreate : ∀ row, (createAssetTransferRequest env uuid row).Recalls Q h₃ := by
    intro row
    refine .ite (fun _ => .fulfilled trivial) fun _ => ?_
    apply (insert_recalls (fun s => hq _ _ _ (.refl s)) fun s t ht => hw _ s t row ht).bind
    intro _ h' _
    exact .pending (fun s => hq _ _ _ (.refl s)) fun s => .fulfilled trivial
  apply (hcreate _).bind
  intro created h₄ _
  apply auditTransfer_recalls hq
  intro h₅ _
  exact .fulfilled trivial

end

section

variable {α : Type} {Q : List (World × World) → World → World → Prop}
  (hq : ∀ h s t, KeepsTransfers s t → Q h s t)

include hq

theorem applyCustodyTransfer_keeps (assetRowId newCustodianIdentityId : String) :
    (applyCustodyTransfer env assetRowId newCustodianIdentityId).Recalls Q h := by
  refine .ite (fun _ => .fulfilled trivial) fun _ => ?_
  refine Async.yields_statement_bind (fun s => ?_) fun s => ?_
  · apply hq
    simp only [transferCustodyIn]
    split <;> exact ⟨rfl, rfl⟩
  · exact .pending (fun s => hq _ _ _ (.refl s)) fun s => .fulfilled trivial

theorem execute_recalls {user : Option ℕ} {input : RequestId}
    (hsubmit : ∀ besu request asset recipient h' s, Checks input h' request asset recipient →
      Q h' s (Besu.submitIn besu
        (.transferAsset asset.assetId (recipientWallet env besu recipient)) s).2)
    (hmark : ∀ besu request asset recipient h' s transactionHash,
      Checks input h' request asset recipient →
        (∃ e ∈ h', Confirms (.transferAsset asset.assetId (recipientWallet env besu recipient))
          transactionHash e.1 e.2) →
            Q h' s (updateTransferRequests input.requestId (executedPatch transactionHash) s)) :
    (execute env user input).Recalls Q h := by
  have haudits : ∀ h s t, Audits s t → Q h s t := fun h s t ht => hq h s t (.of_audits ht)
  apply requireActor_recalls haudits
  intro actor h₁ _ _ _
  refine found_recalls haudits rfl (fun _ => .rejected _ _) fun s request hrequest => ?_
  apply guard_recalls
  intro happroved
  refine found_recalls haudits rfl (fun _ => .rejected _ _) fun s₂ asset hasset => ?_
  apply guard_recalls
  intro hcustodian
  apply hasOpenDispute_recalls haudits
  intro h₂ hh₂
  cases env.besu with
  | none => exact .rejected _ _
  | some besu =>
    refine found_recalls haudits rfl (fun _ => .rejected _ _) fun s₃ recipient hrecipient => ?_
    apply guard_recalls
    intro hverified
    have hchecks : Checks input (h₂ ++ [(s₃, s₃)]) request asset recipient := by
      constructor
      · exact RequestRead.mono ⟨(s, s), by simp, hrequest⟩ (List.Subset.trans
          (List.subset_append_left _ _) (List.Subset.trans hh₂ (List.subset_append_left _ _)))
      · exact not_not.mp happroved
      · exact ⟨(s₂, s₂), List.mem_append_left _ (hh₂ (by simp)), hasset⟩
      · exact not_not.mp hcustodian
      · exact ⟨(s₃, s₃), by simp, hrecipient⟩
      · exact not_not.mp hverified
    apply resolveOnChainWallet_recalls haudits
    intro h₄ hh₄
    have htransfer : (tryCatch
        (Besu.transferAsset besu asset.assetId (recipientWallet env besu recipient)) fun error =>
          throw (.trpc .badGateway
            s!"Blockchain rejected the transfer: {describeError error}") : Promise String).Yields Q
        (fun transactionHash h' => h₄ <+: h' ∧ Async.Passed (Besu.Confirmed besu
          (.transferAsset asset.assetId (recipientWallet env besu recipient)) transactionHash) h')
        h₄ := by
      refine Async.Yields.recover (Besu.transferAsset_yields (fun h s => hq h s s (.refl s)) ?_)
        fun _ _ _ => .rejected _ _
      intro h' s' hh'
      exact hsubmit besu request asset recipient h' s'
        (hchecks.mono (List.Subset.trans hh₄ hh'.subset))
    apply htransfer.bind
    rintro transactionHash h₅ ⟨hpre, hpassed⟩
    have hh₅ := hpre.subset
    obtain ⟨e, he, _, hconfirmed⟩ := hpassed.mem
    have hconfirms := Besu.Confirmed.confirms hconfirmed
    apply (applyCustodyTransfer_keeps hq _ _).bind
    intro _ h₆ hh₆
    have hupdate : (updateAssetTransferRequest env input.requestId
        (executedPatch transactionHash)).Recalls Q h₆ := by
      apply updateAssetTransferRequest_recalls haudits
      intro s'
      exact hmark besu request asset recipient h₆ s' transactionHash
        (hchecks.mono (List.Subset.trans hh₄ (List.Subset.trans hh₅ hh₆))) ⟨e, hh₆ he, hconfirms⟩
    apply hupdate.bind
    intro _ h₇ _
    apply auditTransfer_recalls haudits
    intro h₈ _
    exact .fulfilled trivial

end

/-! ### The system -/

inductive TransferCall where
  | request (user : Option ℕ) (uuid : String) (input : RequestInput)
  | accept (user : Option ℕ) (input : RequestId)
  | approve (user : Option ℕ) (input : ApproveInput)
  | execute (user : Option ℕ) (input : RequestId)

inductive TransferReply where
  | request (row : Option AssetTransferRequestRow)
  | executed (result : ExecuteResult)

def transferBody (env : Environment) : TransferCall → Promise TransferReply
  | .request user uuid input => do return .request (← Transfer.request env user uuid input)
  | .accept user input => do return .request (← accept env user input)
  | .approve user input => do return .request (← approve env user input)
  | .execute user input => do return .executed (← execute env user input)

/-- The rest of the application and the other users of the chain leave only the transfer requests
alone. -/
def transferSystem (env : Environment) : System TransferCall World Error TransferReply where
  body := transferBody env
  interfere s t := t.assetTransferRequests = s.assetTransferRequests

abbrev TransferConfig := Config TransferCall World Error TransferReply

/-- What a statement of the call does to the transfer requests or the chain, after the past `h`. -/
def TransferCall.Writes (env : Environment) (call : TransferCall) (h : List (World × World))
    (s t : World) : Prop :=
  match call with
  | .request _ uuid _ =>
    ∃ row, insertAssetTransferRequest (assetTransferRequestRow uuid row) s = some t
  | .accept user input => ∃ actor request, Accepts user input h actor request ∧
      t = updateTransferRequests input.requestId acceptedPatch s
  | .approve user input => ∃ actor request, Decides user input h actor request ∧
      t = updateTransferRequests input.requestId (decidedPatch actor input) s
  | .execute _ input => ∃ besu request asset recipient, Checks input h request asset recipient ∧
      (t = (Besu.submitIn besu
          (.transferAsset asset.assetId (recipientWallet env besu recipient)) s).2 ∨
        ∃ transactionHash, (∃ e ∈ h, Confirms
            (.transferAsset asset.assetId (recipientWallet env besu recipient)) transactionHash
            e.1 e.2) ∧
          t = updateTransferRequests input.requestId (executedPatch transactionHash) s)

def TransferCall.Effect (env : Environment) (call : TransferCall) (h : List (World × World))
    (s t : World) : Prop :=
  KeepsTransfers s t ∨ call.Writes env h s t

theorem transfer_recalls (env : Environment) (call : TransferCall) :
    ((transferSystem env).body call).Recalls (call.Effect env) [] := by
  have hq : ∀ h s t, KeepsTransfers s t → call.Effect env h s t := fun _ _ _ => .inl
  have haudits : ∀ h s t, Audits s t → call.Effect env h s t := fun h s t ht => hq h s t (.of_audits ht)
  cases call with
  | request user uuid input =>
    apply (request_recalls haudits fun h s t row ht => .inr ⟨row, ht⟩).bind
    exact fun _ _ _ => .fulfilled trivial
  | accept user input =>
    apply (accept_recalls haudits fun actor request h s ha => .inr ⟨actor, request, ha, rfl⟩).bind
    exact fun _ _ _ => .fulfilled trivial
  | approve user input =>
    apply (approve_yields haudits fun actor request h s hd => .inr ⟨actor, request, hd, rfl⟩).bind
    exact fun _ _ _ => .fulfilled trivial
  | execute user input =>
    refine (execute_recalls hq ?_ ?_).bind fun _ _ _ => .fulfilled trivial
    · intro besu request asset recipient h s hchecks
      exact .inr ⟨besu, request, asset, recipient, hchecks, .inl rfl⟩
    · intro besu request asset recipient h s transactionHash hchecks hconfirms
      exact .inr ⟨besu, request, asset, recipient, hchecks, .inr ⟨transactionHash, hconfirms, rfl⟩⟩

end Sampraan.Governance.Transfer
