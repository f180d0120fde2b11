import Sampraan.Governance.TransferSystem

/-!
Who stands behind a transfer that `execute` submits. Request rows are updated
without a guard, so their columns say little about this: it is read off the
write that each status came from, and off what the writing call had found.
-/

namespace Sampraan.Governance.Transfer

open Backend Library
open CryptoAssurance (Actor)

variable {env : Environment} {C : TransferConfig → Move TransferCall World → Prop} {w₀ : World}
  {c c₀ : TransferConfig} {s t : World} {h : List (World × World)}

/-! ### How requests evolve -/

abbrev UniqueRequests (w : World) : Prop :=
  Table.UniqueKey AssetTransferRequestRow.id w.assetTransferRequests

/-- The row keeps what the request was made for. -/
structure RequestEvolves (r r' : AssetTransferRequestRow) : Prop where
  id : r'.id = r.id
  assetId : r'.assetId = r.assetId
  fromIdentityId : r'.fromIdentityId = r.fromIdentityId
  toIdentityId : r'.toIdentityId = r.toIdentityId

theorem RequestEvolves.refl (r : AssetTransferRequestRow) : RequestEvolves r r := ⟨rfl, rfl, rfl, rfl⟩

theorem RequestEvolves.trans {r r' r'' : AssetTransferRequestRow} (h : RequestEvolves r r')
    (h' : RequestEvolves r' r'') : RequestEvolves r r'' :=
  ⟨h'.id.trans h.id, h'.assetId.trans h.assetId, h'.fromIdentityId.trans h.fromIdentityId,
    h'.toIdentityId.trans h.toIdentityId⟩

abbrev RequestsEvolve (s t : World) : Prop :=
  Table.Evolves AssetTransferRequestRow.id RequestEvolves s.assetTransferRequests
    t.assetTransferRequests

theorem requestsEvolve_update (id : String)
    {patch : AssetTransferRequestRow → AssetTransferRequestRow}
    (hpatch : ∀ r, RequestEvolves r (patch r)) : RequestsEvolve s (updateTransferRequests id patch s) :=
  .update RequestEvolves.refl (fun r => (hpatch r).id) fun r _ => hpatch r

theorem requestsEvolve_insert {row : AssetTransferRequestRow}
    (h : insertAssetTransferRequest row s = some t) : RequestsEvolve s t := by
  simp only [insertAssetTransferRequest, Option.ite_none_left_eq_some, Option.some.injEq] at h
  obtain ⟨hfresh, rfl⟩ := h
  apply Table.Evolves.append RequestEvolves.refl
  intro r hr hid
  exact hfresh (List.any_eq_true.mpr ⟨r, hr, by simp [hid]⟩)

theorem TransferCall.Effect.evolves {call : TransferCall} (he : call.Effect env h s t) :
    RequestsEvolve s t := by
  rcases he with hk | hw
  · exact .of_eq RequestEvolves.refl hk.requests
  cases call with
  | request user uuid input =>
    obtain ⟨row, hrow⟩ := hw
    exact requestsEvolve_insert hrow
  | accept user input =>
    obtain ⟨actor, request, -, rfl⟩ := hw
    exact requestsEvolve_update _ fun _ => ⟨rfl, rfl, rfl, rfl⟩
  | approve user input =>
    obtain ⟨actor, request, -, rfl⟩ := hw
    exact requestsEvolve_update _ fun _ => ⟨rfl, rfl, rfl, rfl⟩
  | execute user input =>
    obtain ⟨besu, request, asset, recipient, -, rfl | ⟨transactionHash, -, rfl⟩⟩ := hw
    · exact .of_eq RequestEvolves.refl rfl
    · exact requestsEvolve_update _ fun _ => ⟨rfl, rfl, rfl, rfl⟩

theorem transfer_discipline (env : Environment) :
    (transferSystem env).Discipline UniqueRequests RequestsEvolve where
  body call := (transfer_recalls env call).obeys fun _ _ _ _ he => he.evolves
  interfere _ _ _ h := .of_eq RequestEvolves.refl h
  keep _ _ hs h := h.unique hs

/-- In any system that keeps the requests, one that a call has read is still there. -/
theorem exists_request {κ β : Type} {M : System κ World Error β}
    (D : M.Discipline UniqueRequests RequestsEvolve) {C : Config κ World Error β → Move κ World → Prop}
    {c : Config κ World Error β} (h₀ : UniqueRequests w₀) (hc : M.Reach C w₀ c) {i : ℕ}
    {requestId : String} {request : AssetTransferRequestRow}
    (hr : RequestRead requestId (c.history i) request) :
    ∃ r ∈ c.shared.assetTransferRequests, RequestEvolves request r := by
  obtain ⟨e, he, hf⟩ := hr
  obtain ⟨-, hlater⟩ := D.recalled h₀ hc he
  exact Table.exists_evolved RequestEvolves.refl (fun _ _ _ => RequestEvolves.trans)
    (fun _ _ => id) hlater (List.mem_of_find?_eq_some hf)

/-- Two calls that have read one request agree on its parties. -/
theorem parties_eq (h₀ : UniqueRequests w₀) (hc : (transferSystem env).Reach C w₀ c) {i j : ℕ}
    {requestId : String} {request request' : AssetTransferRequestRow}
    (hr : RequestRead requestId (c.history i) request)
    (hr' : RequestRead requestId (c.history j) request') :
    request'.fromIdentityId = request.fromIdentityId ∧
      request'.toIdentityId = request.toIdentityId := by
  obtain ⟨r, hmem, he⟩ := exists_request (transfer_discipline env) h₀ hc hr
  obtain ⟨r', hmem', he'⟩ := exists_request (transfer_discipline env) h₀ hc hr'
  have hunique : UniqueRequests c.shared := (transfer_discipline env).shared_inv h₀ hc
  have hrr : r = r' := by
    apply hunique.eq hmem hmem'
    rw [he.id, he'.id, hr.id_eq, hr'.id_eq]
  rw [← he'.fromIdentityId, ← he'.toIdentityId, ← he.fromIdentityId, ← he.toIdentityId, hrr]
  exact ⟨rfl, rfl⟩

/-! ### Where a status comes from -/

def HasStatus (requestId : String) (status : TransferRequestStatus) (w : World) : Prop :=
  ∃ r ∈ w.assetTransferRequests, r.id = requestId ∧ r.status = status

theorem hasStatus_of_read {requestId : String} {request : AssetTransferRequestRow} {w : World}
    (hf : w.assetTransferRequests.find? (·.id == requestId) = some request) :
    HasStatus requestId request.status w :=
  ⟨request, List.mem_of_find?_eq_some hf, by simpa using List.find?_some hf, rfl⟩

theorem updated_of_hasStatus {requestId id : String} {status : TransferRequestStatus}
    {patch : AssetTransferRequestRow → AssetTransferRequestRow}
    (hs : ¬ HasStatus requestId status s)
    (ht : HasStatus requestId status (updateTransferRequests id patch s))
    (hpatch : ∀ r, (patch r).id = r.id) :
    id = requestId ∧ ∃ r, (patch r).status = status := by
  obtain ⟨r', hr', hid, hstatus⟩ := ht
  obtain ⟨r, hr, rfl⟩ := Table.mem_update.mp hr'
  split at hid
  · rename_i hm
    rw [if_pos hm] at hstatus
    rw [hpatch] at hid
    exact ⟨(beq_iff_eq.mp hm).symm.trans hid, r, hstatus⟩
  · rename_i hm
    rw [if_neg hm] at hstatus
    exact absurd ⟨r, hr, hid, hstatus⟩ hs

theorem not_hasStatus_of_insert {requestId uuid : String} {status : TransferRequestStatus}
    {row : CreateAssetTransferRequest} (hstatus : status ≠ .pending)
    (hs : ¬ HasStatus requestId status s)
    (ht : insertAssetTransferRequest (assetTransferRequestRow uuid row) s = some t) :
    ¬ HasStatus requestId status t := by
  simp only [insertAssetTransferRequest, Option.ite_none_left_eq_some, Option.some.injEq] at ht
  obtain ⟨-, rfl⟩ := ht
  rintro ⟨r, hr, hid, hr'⟩
  rcases List.mem_append.mp hr with hr | hr
  · exact hs ⟨r, hr, hid, hr'⟩
  · rw [List.mem_singleton.mp hr] at hr'
    exact hstatus hr'.symm

/-- What a call did that gave a request the status. -/
def StatusWrite (requestId : String) (h : List (World × World)) (s t : World) (call : TransferCall) :
    TransferRequestStatus → Prop
  | .accepted => ∃ user actor request, call = .accept user ⟨requestId⟩ ∧
      Accepts user ⟨requestId⟩ h actor request ∧
        t = updateTransferRequests requestId acceptedPatch s
  | .approved => ∃ user reason actor request, call = .approve user ⟨requestId, .approved, reason⟩ ∧
      Decides user ⟨requestId, .approved, reason⟩ h actor request ∧
        t = updateTransferRequests requestId
          (decidedPatch actor ⟨requestId, .approved, reason⟩) s
  | _ => True

theorem statusWrite {call : TransferCall} {requestId : String} {status : TransferRequestStatus}
    (hstatus : status ≠ .pending) (he : call.Effect env h s t)
    (hs : ¬ HasStatus requestId status s) (ht : HasStatus requestId status t) :
    StatusWrite requestId h s t call status := by
  rcases he with hk | hw
  · rw [HasStatus, hk.requests] at ht
    exact absurd ht hs
  cases call with
  | request user uuid input =>
    obtain ⟨row, hrow⟩ := hw
    exact absurd ht (not_hasStatus_of_insert hstatus hs hrow)
  | accept user input =>
    obtain ⟨actor, request, haccepts, rfl⟩ := hw
    obtain ⟨rfl, r, rfl⟩ := updated_of_hasStatus hs ht fun _ => rfl
    exact ⟨user, actor, request, rfl, haccepts, rfl⟩
  | approve user input =>
    obtain ⟨actor, request, hdecides, rfl⟩ := hw
    obtain ⟨rfl, r, rfl⟩ := updated_of_hasStatus hs ht fun _ => rfl
    obtain ⟨requestId, decision, reason⟩ := input
    cases decision with
    | approved => exact ⟨user, reason, actor, request, rfl, hdecides, rfl⟩
    | rejected => trivial
  | execute user input =>
    obtain ⟨besu, request, asset, recipient, -, rfl | ⟨transactionHash, -, rfl⟩⟩ := hw
    · exact absurd ht hs
    · obtain ⟨rfl, r, rfl⟩ := updated_of_hasStatus hs ht fun _ => rfl
      trivial

/-! ### The chain of authority -/

theorem Continues.history (hcont : System.Continues c₀ c) (i : ℕ) : c₀.history i ⊆ c.history i :=
  fun _ he => hcont.mem_history he

/-- The write `e` is an acceptance of the request by its recipient. -/
structure AcceptedBy (c : TransferConfig) (request : AssetTransferRequestRow) (e : ℕ × World × World) :
    Prop where
  call : ∃ user p actor, c.threads e.1 = some ⟨.accept user ⟨request.id⟩, p⟩ ∧
    ActorRead user (c.history e.1) actor ∧ actor.identity.id = request.toIdentityId
  write : e.2.2 = updateTransferRequests request.id acceptedPatch e.2.1

/-- The write `e` is an approval of the request by somebody else with the authority for it. -/
def ApprovedBy (c : TransferConfig) (request : AssetTransferRequestRow) (e : ℕ × World × World) :
    Prop :=
  ∃ user reason p actor, c.threads e.1 = some ⟨.approve user ⟨request.id, .approved, reason⟩, p⟩ ∧
    ActorRead user (c.history e.1) actor ∧ actor.identity.id ≠ request.fromIdentityId ∧
      actor.identity.id ≠ request.toIdentityId ∧ Approver (c.history e.1) actor request ∧
        e.2.2 = updateTransferRequests request.id (decidedPatch actor ⟨request.id, .approved, reason⟩)
          e.2.1

theorem Approver.congr {actor : Actor} {request request' : AssetTransferRequestRow}
    (ha : Approver h actor request) (hfrom : request'.fromIdentityId = request.fromIdentityId) :
    Approver h actor request' := by
  rw [Approver, hfrom]
  exact ha

theorem status_cause (h₀ : ∀ r ∈ w₀.assetTransferRequests, r.status = .pending)
    (hc : (transferSystem env).Reach C w₀ c) {i : ℕ} {requestId : String}
    {request : AssetTransferRequestRow} (hr : RequestRead requestId (c.history i) request)
    (hstatus : request.status ≠ .pending) :
    ∃ c₀ e call, (transferSystem env).Ran C w₀ c₀ c e call ∧
      StatusWrite requestId (c₀.history e.1) e.2.1 e.2.2 call request.status := by
  obtain ⟨e, he, hf⟩ := hr
  have hnone : ¬ HasStatus requestId request.status w₀ := by
    rintro ⟨r, hr, -, hrs⟩
    exact hstatus (hrs.symm.trans (h₀ r hr))
  have hint : ∀ s t, (transferSystem env).interfere s t → ¬ HasStatus requestId request.status s →
      ¬ HasStatus requestId request.status t := by
    intro s t hst hs
    have hsame : t.assetTransferRequests = s.assetTransferRequests := hst
    rwa [HasStatus, hsame]
  obtain ⟨c₀, e', call, hran, hnot, hthen⟩ :=
    hc.cause_of_history hnone hint he (hasStatus_of_read hf)
  exact ⟨c₀, e', call, hran, statusWrite hstatus (hran.recalls (transfer_recalls env)) hnot hthen⟩

/-- A transfer on the chain that `execute` submits for a request comes after the recipient's
acceptance and, between the two, after an approval; and the call has checked custody and recipient. -/
theorem transfer_authorized (hids : UniqueRequests w₀)
    (h₀ : ∀ r ∈ w₀.assetTransferRequests, r.status = .pending)
    (hc : (transferSystem env).Reachable w₀ c) {before after : List (ℕ × World × World)}
    {e : ℕ × World × World} (hlog : c.log = before ++ e :: after) {user : Option ℕ}
    {input : RequestId} {p : Async World Error TransferReply}
    (hi : c.threads e.1 = some ⟨.execute user input, p⟩) {action : ChainAction}
    (hsubmit : Backend.Submits action e.2.1 e.2.2) :
    ∃ request, request.id = input.requestId ∧
      (∃ e₁ e₂, [e₁, e₂].Sublist before ∧ AcceptedBy c request e₁ ∧ ApprovedBy c request e₂) ∧
        ∃ besu asset recipient, Checks input (pastOf before e.1) request asset recipient ∧
          action = .transferAsset asset.assetId (recipientWallet env besu recipient) := by
  obtain ⟨c₀, call, hran, hbefore⟩ := hc.ran_of_split hlog
  have hpast : c₀.history e.1 = pastOf before e.1 := by rw [← hbefore, Config.history, pastOf]
  obtain rfl := hran.call_eq hi
  obtain ⟨besu, request, asset, recipient, hchecks, haction⟩ : ∃ besu request asset recipient,
      Checks input (c₀.history e.1) request asset recipient ∧
        action = .transferAsset asset.assetId (recipientWallet env besu recipient) := by
    obtain hk | ⟨besu, request, asset, recipient, hchecks, hw⟩ :=
      hran.recalls (transfer_recalls env)
    · exact absurd hsubmit (not_submits hk.ledger)
    · refine ⟨besu, request, asset, recipient, hchecks, ?_⟩
      obtain ht | ⟨transactionHash, -, ht⟩ := hw
      · exact Besu.eq_of_submits besu (ht ▸ hsubmit)
      · exact absurd hsubmit (not_submits (by rw [ht]; rfl))
  have hid := hchecks.requestRead.id_eq
  -- the approval that `execute` has found, and the acceptance that the approval has found
  obtain ⟨c₁, e₂, call₂, hran₂, hwrite₂⟩ :=
    status_cause h₀ hran.reach hchecks.requestRead (by rw [hchecks.approved]; decide)
  rw [hchecks.approved] at hwrite₂
  obtain ⟨approver, reason, actor₂, request₂, rfl, hdecides, ht₂⟩ := hwrite₂
  obtain ⟨c₂, e₁, call₁, hran₁, hwrite₁⟩ :=
    status_cause h₀ hran₂.reach hdecides.requestRead (by rw [hdecides.accepted]; decide)
  rw [hdecides.accepted] at hwrite₁
  obtain ⟨acceptor, actor₁, request₁, rfl, haccepts, ht₁⟩ := hwrite₁
  have hcont₂ := hran₂.continues.trans hran.continues
  have hcont₁ := hran₁.continues.trans hcont₂
  have hread := hchecks.requestRead.mono (Continues.history hran.continues e.1)
  obtain ⟨hfrom₂, hto₂⟩ :=
    parties_eq hids hc hread (hdecides.requestRead.mono (Continues.history hcont₂ e₂.1))
  obtain ⟨-, hto₁⟩ :=
    parties_eq hids hc hread (haccepts.requestRead.mono (Continues.history hcont₁ e₁.1))
  have horder : [e₁, e₂].Sublist before := by
    have he₁ : e₁ ∈ c₁.log := hran₁.mem_log
    rw [← hbefore]
    exact ((List.singleton_sublist.mpr he₁).append_right [e₂]).trans hran₂.log.sublist
  refine ⟨request, hid, ⟨e₁, e₂, horder, ⟨?_, ?_⟩, ?_⟩, besu, asset, recipient, hpast ▸ hchecks,
    haction⟩
  · obtain ⟨p₁, hp₁⟩ := (hran₁.later hcont₂).thread_eq
    refine ⟨acceptor, p₁, actor₁, hid ▸ hp₁, haccepts.actorRead.mono (Continues.history hcont₁ e₁.1), ?_⟩
    rw [← haccepts.recipient, hto₁]
  · rw [hid, ht₁]
  · obtain ⟨p₂, hp₂⟩ := (hran₂.later hran.continues).thread_eq
    refine ⟨approver, reason, p₂, actor₂, hid ▸ hp₂,
      hdecides.actorRead.mono (Continues.history hcont₂ e₂.1), ?_, ?_, ?_, ?_⟩
    · rw [← hfrom₂]
      exact hdecides.notSender.symm
    · rw [← hto₂]
      exact hdecides.notRecipient.symm
    · exact (hdecides.approver.mono (Continues.history hcont₂ e₂.1)).congr hfrom₂.symm
    · rw [hid, ht₂]

/-! ### A handover -/

/-- The sample deployment, with a wallet for each DID. -/
def partyEnvironment : Environment :=
  { sampleEnvironment with
    ethers :=
      { sampleEnvironment.ethers with
        solidityPacked := fun _ text => text.toList.map fun c => UInt8.ofNat c.toNat
        keccak256 := fun bytes => String.ofList (bytes.map fun b => Char.ofNat b.toNat)
        walletAddress := fun key => key } }

def sender : IdentityRow where
  id := "sender"
  linkedUserId := some 2
  displayName := "Sender"
  status := .active
  did := "did:sampraan:sender"
  lifecycleState := .verified

def recipient : IdentityRow where
  id := "recipient"
  linkedUserId := some 3
  displayName := "Recipient"
  status := .active
  did := "did:sampraan:recipient"
  lifecycleState := .verified

def partyWorld : World :=
  { sampleWorld with
    identities := sampleWorld.identities ++ [sender, recipient]
    assets :=
      [{ id := "asset"
         assetId := "ASSET-1"
         classification := .sensitive
         custodianIdentityId := "sender"
         tokenId := some "1"
         status := .active }]
    ledger :=
      { assets :=
          [{ assetId := "ASSET-1"
             tokenId := 1
             custodian := "did:sampraan:sender"
             mintedBy := "0x01" }]
        upcomingHash := "0x02" } }

def handover (id : String) (user : ℕ) (toDid : String) : TransferCall :=
  .request (some user) id { assetId := "asset", toDid := toDid, reason := "handover" }

def approveHandover (id : String) (decision : Decision) : TransferCall :=
  .approve (some 1) { requestId := id, decision := decision, reason := "papers checked" }

def transferRun (moves : List (Move TransferCall World)) : Option TransferConfig :=
  (transferSystem partyEnvironment).exec (fun _ _ => True) (Config.initial partyWorld) moves

def handoverMoves : List (Move TransferCall World) :=
  System.sequence 0
    [(handover "request" 2 "did:sampraan:recipient", 10), (.accept (some 3) ⟨"request"⟩, 7),
      (approveHandover "request" .approved, 8), (.execute (some 2) ⟨"request"⟩, 16)]

theorem transfer_authorized_sample : ∃ (c : TransferConfig) (before after : _) (e : _),
    c.log = before ++ e :: after ∧ (∃ action, Backend.Submits action e.2.1 e.2.2) ∧
      ∃ request e₁ e₂, [e₁, e₂].Sublist before ∧ AcceptedBy c request e₁ ∧ ApprovedBy c request e₂ := by
  have hrun : (transferRun handoverMoves).isSome := by rfl
  obtain ⟨e, he, hcall, hsubmit⟩ : ∃ e ∈ ((transferRun handoverMoves).get hrun).log, e.1 = 3 ∧
      Confirms (.transferAsset "ASSET-1" "did:sampraan:recipient") "0x02" e.2.1 e.2.2 := by
    unfold Confirms
    decide +revert
  have hi : ∃ p, ((transferRun handoverMoves).get hrun).threads 3 =
      some ⟨.execute (some 2) ⟨"request"⟩, p⟩ := ⟨_, by rfl⟩
  obtain ⟨p, hi⟩ := hi
  obtain ⟨before, after, hlog⟩ := List.append_of_mem he
  have hc : (transferSystem partyEnvironment).Reachable partyWorld
      ((transferRun handoverMoves).get hrun) :=
    System.exec_reach (fun m hm => System.harmless_of_mem_sequence hm) (Option.some_get hrun).symm
  obtain ⟨request, -, ⟨e₁, e₂, horder, hchain⟩, -⟩ := transfer_authorized (by exact List.nodup_nil)
    (by simp [partyWorld, sampleWorld]) hc hlog (hcall ▸ hi) ⟨_, hsubmit⟩
  exact ⟨_, before, after, e, hlog, ⟨_, _, hsubmit⟩, request, e₁, e₂, horder, hchain⟩

end Sampraan.Governance.Transfer
