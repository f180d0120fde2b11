import Sampraan.Backend.Environment
import Sampraan.Library.Recall
import Sampraan.Library.Table

/-!
The functions of `besu-blockchain.service.ts` that read and move assets, over
the ledger. Each transaction is one statement: `enqueueSubmit` lets one at a
time go from its submission to its receipt, and a lost receipt is a call that
does not go on.
-/

namespace Sampraan.Backend

open Library (Async)

/-! ### The ledger -/

def Ledger.find (ledger : Ledger) (assetId : String) : Option LedgerAsset :=
  ledger.assets.find? (·.assetId == assetId)

def Ledger.token (ledger : Ledger) (tokenId : ℕ) : Option LedgerAsset :=
  ledger.assets.find? (·.tokenId == tokenId)

def Ledger.identity (ledger : Ledger) (wallet : String) : Option LedgerIdentity :=
  ledger.identities.find? (·.wallet == wallet)

def Ledger.proposal (ledger : Ledger) (proposalId : ℕ) : Option LedgerProposal :=
  ledger.proposals.find? (·.id == proposalId)

/-- The checks of `governanceBurnNFT`, `governanceForceTransfer` and
`governanceDeactivateIdentity`. -/
def Ledger.revertEffect (ledger : Ledger) (proposal : LedgerProposal) : Option RegistryError :=
  match proposal.kind with
  | .burnNft =>
    match ledger.token proposal.tokenId with
    | none => some .assetNotRegistered
    | some asset => if asset.revoked then some .invalidAssetStatus else none
  | .forceTransfer =>
    match ledger.token proposal.tokenId with
    | none => some .assetNotRegistered
    | some asset => if proposal.account = asset.custodian then some .sameAssetStatus else none
  | .deactivateIdentity =>
    match ledger.identity proposal.account with
    | none => some .identityNotRegistered
    | some identity => if identity.status = .deactivated then some .sameStatus else none
  | .pauseRegistry | .unpauseRegistry | .grantRole | .revokeRole => none

/-- The checks of `execute`. A proposal that does not exist has no approvals. -/
def Ledger.revertExecution (ledger : Ledger) (proposalId : ℕ) : Option RegistryError :=
  match ledger.proposal proposalId with
  | none => some .notApprovedEnough
  | some proposal =>
    if proposal.executed then some .alreadyExecuted
    else if proposal.cancelled then some .proposalNotPending
    else if proposal.approvals < ledger.quorumRequired then some .notApprovedEnough
    else if ledger.timestamp < proposal.createdAt + ledger.timelockDelaySeconds then
      some .timelockNotElapsed
    else ledger.revertEffect proposal

def Ledger.identityStatus (ledger : Ledger) (wallet : String) : Option LifecycleState :=
  (ledger.identity wallet).map LedgerIdentity.status

def Ledger.dispute (ledger : Ledger) (disputeId : ℕ) : Option LedgerDispute :=
  ledger.disputes.find? (·.id == disputeId)

def zeroHash : String := "0x0000000000000000000000000000000000000000000000000000000000000000"

/-- The contracts' checks on what the ledger holds. For their other checks `refusal` stands. -/
def Ledger.revert (ledger : Ledger) : ChainAction → Option RegistryError
  | .registerAsset assetId _ =>
    if (ledger.find assetId).isSome then some .assetAlreadyRegistered else none
  | .transferAsset assetId toCustodianWallet =>
    match ledger.find assetId with
    | none => some .assetNotRegistered
    | some asset => if toCustodianWallet = asset.custodian then some .sameAssetStatus else none
  | .executeProposal proposalId => ledger.revertExecution proposalId
  | .registerIdentity wallet didDigest =>
    if (ledger.identity wallet).isSome ∨ ledger.identities.any (·.didDigest == didDigest) then
      some .alreadyRegistered
    else none
  | .verifyIdentity wallet =>
    if ledger.identityStatus wallet ≠ some .pending then some .notPending else none
  | .suspendIdentity wallet =>
    if ledger.identityStatus wallet ≠ some .verified then some .invalidStatus else none
  | .reactivateIdentity wallet =>
    if ledger.identityStatus wallet ≠ some .suspended then some .invalidStatus else none
  | .flagAnomaly _ _ => none
  | .raiseDispute tokenId evidenceHash =>
    match ledger.token tokenId with
    | none => some .assetNotRegistered
    | some asset =>
      if evidenceHash = zeroHash then some .emptyEvidenceHash
      else if asset.disputed then some .assetDisputed
      else none
  | .resolveDispute disputeId _ =>
    match ledger.dispute disputeId with
    | none => some .disputeNotOpen
    | some dispute => if !dispute.isOpen then some .disputeNotOpen else none

/-- What an executed proposal does to a registered asset. -/
def LedgerProposal.onAsset (proposal : LedgerProposal) (asset : LedgerAsset) : LedgerAsset :=
  if asset.tokenId ≠ proposal.tokenId then asset
  else
    match proposal.kind with
    | .burnNft => { asset with revoked := true }
    | .forceTransfer => { asset with custodian := proposal.account }
    | _ => asset

/-- What an executed proposal does to a registered identity. -/
def LedgerProposal.onIdentity (proposal : LedgerProposal) (identity : LedgerIdentity) :
    LedgerIdentity :=
  if proposal.kind = .deactivateIdentity ∧ identity.wallet = proposal.account then
    { identity with status := .deactivated }
  else identity

/-- The hold of a token is put on or taken off. -/
def Ledger.hold (ledger : Ledger) (tokenId : ℕ) (disputed : Bool) : List LedgerAsset :=
  ledger.assets.map fun asset =>
    if asset.tokenId = tokenId then { asset with disputed := disputed } else asset

/-- Token ids count from 1 and are not given twice. -/
def Ledger.perform (ledger : Ledger) : ChainAction → List LedgerAsset
  | .registerAsset assetId custodianWallet =>
    ledger.assets ++
      [{ assetId := assetId
         tokenId := ledger.assets.length + 1
         custodian := custodianWallet
         mintedBy := ledger.upcomingHash }]
  | .transferAsset assetId toCustodianWallet =>
    ledger.assets.map fun asset =>
      if asset.assetId == assetId then { asset with custodian := toCustodianWallet } else asset
  | .executeProposal proposalId =>
    ledger.assets.map fun asset =>
      (ledger.proposal proposalId).elim asset fun proposal => proposal.onAsset asset
  | .raiseDispute tokenId _ => ledger.hold tokenId true
  | .resolveDispute disputeId upheld =>
    match ledger.dispute disputeId with
    | none => ledger.assets
    | some dispute => if upheld then ledger.assets else ledger.hold dispute.tokenId false
  | .registerIdentity _ _ | .verifyIdentity _ | .suspendIdentity _ | .reactivateIdentity _
  | .flagAnomaly _ _ => ledger.assets

def Ledger.setStatus (ledger : Ledger) (wallet : String) (status : LifecycleState) :
    List LedgerIdentity :=
  Library.Table.update (·.wallet == wallet) (fun identity => { identity with status := status })
    ledger.identities

def Ledger.performIdentities (ledger : Ledger) : ChainAction → List LedgerIdentity
  | .registerIdentity wallet didDigest =>
    ledger.identities ++ [{ wallet := wallet, didDigest := didDigest, status := .pending }]
  | .verifyIdentity wallet => ledger.setStatus wallet .verified
  | .suspendIdentity wallet => ledger.setStatus wallet .suspended
  | .reactivateIdentity wallet => ledger.setStatus wallet .verified
  | .executeProposal proposalId =>
    ledger.identities.map fun identity =>
      (ledger.proposal proposalId).elim identity fun proposal => proposal.onIdentity identity
  | _ => ledger.identities

def Ledger.performProposals (ledger : Ledger) : ChainAction → List LedgerProposal
  | .executeProposal proposalId =>
    Library.Table.update (·.id == proposalId) (fun proposal => { proposal with executed := true })
      ledger.proposals
  | _ => ledger.proposals

/-- Dispute ids count from 1. -/
def Ledger.performDisputes (ledger : Ledger) : ChainAction → List LedgerDispute
  | .raiseDispute tokenId _ =>
    ledger.disputes ++
      [{ id := ledger.disputes.length + 1, tokenId := tokenId, isOpen := true, upheld := false }]
  | .resolveDispute disputeId upheld =>
    Library.Table.update (·.id == disputeId)
      (fun dispute => { dispute with isOpen := false, upheld := upheld }) ledger.disputes
  | _ => ledger.disputes

def Ledger.submit (ledger : Ledger) (action : ChainAction) (error : Option String) :
    Except String String × Ledger :=
  match error with
  | some message =>
    (.error message,
      { ledger with transactions := ledger.transactions ++ [{ action := action, confirmed := none }] })
  | none =>
    (.ok ledger.upcomingHash,
      { ledger with
        assets := ledger.perform action
        identities := ledger.performIdentities action
        proposals := ledger.performProposals action
        disputes := ledger.performDisputes action
        transactions := ledger.transactions ++
          [{ action := action, confirmed := some ledger.upcomingHash }] })

theorem Ledger.find_register (ledger : Ledger) (assetId custodianWallet assetId' : String) :
    { ledger with assets := ledger.perform (.registerAsset assetId custodianWallet) }.find assetId' =
      (ledger.find assetId').or
        (if assetId = assetId' then
          some
            { assetId := assetId
              tokenId := ledger.assets.length + 1
              custodian := custodianWallet
              mintedBy := ledger.upcomingHash }
        else none) := by
  simp [Ledger.find, Ledger.perform, List.find?_append]

theorem Ledger.submit_ok {ledger : Ledger} {action : ChainAction} {error : Option String}
    {transactionHash : String} (h : (ledger.submit action error).1 = .ok transactionHash) :
    error = none ∧ transactionHash = ledger.upcomingHash := by
  cases error with
  | none =>
    simp only [Ledger.submit, Except.ok.injEq] at h
    exact ⟨rfl, h.symm⟩
  | some message => simp [Ledger.submit] at h

/-- The step hands one transaction to the node, which confirms it under the hash. -/
def Confirms (action : ChainAction) (transactionHash : String) (s t : World) : Prop :=
  t.ledger.transactions =
    s.ledger.transactions ++ [{ action := action, confirmed := some transactionHash }]

/-- The step hands the node a transaction that it confirms. -/
def Mines (s t : World) : Prop :=
  ∃ tx ∈ t.ledger.transactions.drop s.ledger.transactions.length, tx.confirmed.isSome

/-- The step hands the node a transaction that it refuses. -/
def Refuses (s t : World) : Prop :=
  ∃ tx ∈ t.ledger.transactions.drop s.ledger.transactions.length, tx.confirmed = none

instance (s t : World) : Decidable (Mines s t) := by
  unfold Mines
  infer_instance

instance (s t : World) : Decidable (Refuses s t) := by
  unfold Refuses
  infer_instance

def Submits (action : ChainAction) (s t : World) : Prop :=
  ∃ confirmed, t.ledger.transactions =
    s.ledger.transactions ++ [{ action := action, confirmed := confirmed }]

theorem not_submits {action : ChainAction} {s t : World} (h : t.ledger = s.ledger) :
    ¬ Submits action s t := by
  rintro ⟨confirmed, hsubmit⟩
  rw [h] at hsubmit
  simp at hsubmit

theorem Confirms.mines {action : ChainAction} {transactionHash : String} {s t : World}
    (h : Confirms action transactionHash s t) : Mines s t := by
  rw [Mines, h, List.drop_left]
  exact ⟨_, List.mem_singleton_self _, rfl⟩

/-! ### The adapter -/

namespace Besu

variable (besu : BesuConfig)

def ensureInitialized : Promise Unit :=
  match besu.initializationError with
  | some message => throw (.other message)
  | none => pure ()

/-- A call of a view function. -/
def view {α : Type} (f : Ledger → α) : Promise α := do
  match ← Async.query fun w => (w.ledger.refusal, f w.ledger) with
  | (some message, _) => throw (.other message)
  | (none, a) => pure a

/-- The error with which the node answers a transaction sent now. -/
def answer (action : ChainAction) (ledger : Ledger) : Option String :=
  match ledger.refusal with
  | some message => some message
  | none => (ledger.revert action).map besu.revertMessage

def submitIn (action : ChainAction) (w : World) : Except String String × World :=
  let outcome := w.ledger.submit action (answer besu action w.ledger)
  (outcome.1, { w with ledger := outcome.2 })

/-- The transaction and its receipt; gives the transaction's hash. -/
def submit (action : ChainAction) : Promise String := do
  match ← Async.statement (submitIn besu action) with
  | .error message => throw (.other message)
  | .ok transactionHash => pure transactionHash

theorem submitIn_submits (action : ChainAction) (s : World) :
    Submits action s (submitIn besu action s).2 := by
  unfold submitIn Ledger.submit
  cases answer besu action s.ledger with
  | none => exact ⟨some s.ledger.upcomingHash, rfl⟩
  | some message => exact ⟨none, rfl⟩

theorem eq_of_submits {action action' : ChainAction} {s : World}
    (h : Submits action s (submitIn besu action' s).2) : action = action' := by
  obtain ⟨confirmed, hsubmit⟩ := h
  obtain ⟨confirmed', hsubmit'⟩ := submitIn_submits besu action' s
  rw [hsubmit'] at hsubmit
  have hlast := List.append_cancel_left hsubmit
  simp only [List.cons.injEq, ChainTransaction.mk.injEq] at hlast
  exact hlast.1.1.symm

theorem submitIn_confirms {action : ChainAction} {s : World} {transactionHash : String}
    (h : (submitIn besu action s).1 = .ok transactionHash) :
    Confirms action transactionHash s (submitIn besu action s).2 := by
  simp only [submitIn] at h ⊢
  obtain ⟨hanswer, rfl⟩ := Ledger.submit_ok h
  rw [hanswer]
  rfl

/-- A confirmed registration has minted the token. -/
theorem find_of_registered {assetId custodianWallet transactionHash : String} {s t : World}
    (h : submitIn besu (.registerAsset assetId custodianWallet) s = (.ok transactionHash, t)) :
    ∃ record, t.ledger.find assetId = some record ∧ record.mintedBy = transactionHash := by
  have hok : (submitIn besu (.registerAsset assetId custodianWallet) s).1 = .ok transactionHash :=
    congrArg Prod.fst h
  have ht : (submitIn besu (.registerAsset assetId custodianWallet) s).2 = t := congrArg Prod.snd h
  simp only [submitIn] at hok ht
  obtain ⟨hanswer, rfl⟩ := Ledger.submit_ok hok
  have hnew : s.ledger.find assetId = none := by
    by_contra hfound
    have hsome : (s.ledger.find assetId).isSome := Option.isSome_iff_ne_none.mpr hfound
    unfold answer at hanswer
    cases hrefusal : s.ledger.refusal <;> simp [hrefusal, Ledger.revert, hsome] at hanswer
  have hfind := Ledger.find_register s.ledger assetId custodianWallet assetId
  rw [hnew, Option.none_or, if_pos rfl] at hfind
  rw [hanswer] at ht
  subst ht
  exact ⟨_, hfind, rfl⟩

theorem submitIn_refuses {action : ChainAction} {s : World} {message : String}
    (h : (submitIn besu action s).1 = .error message) : Refuses s (submitIn besu action s).2 := by
  simp only [submitIn] at h ⊢
  cases hanswer : answer besu action s.ledger with
  | none => simp [hanswer, Ledger.submit] at h
  | some text =>
    rw [Refuses]
    simp [Ledger.submit]

def getAsset (assetId : String) : Promise (Option LedgerAsset) := do
  ensureInitialized besu
  view fun ledger => ledger.find assetId

def requireAssetToken (assetId : String) : Promise ℕ := do
  match ← view fun ledger => ledger.find assetId with
  | none => throw (.other s!"Asset {assetId} is not registered on-chain")
  | some asset => pure asset.tokenId

def registerAsset (assetId custodianWallet : String) : Promise String := do
  ensureInitialized besu
  submit besu (.registerAsset assetId custodianWallet)

def transferAsset (assetId toCustodianWallet : String) : Promise String := do
  ensureInitialized besu
  let _ ← requireAssetToken assetId
  submit besu (.transferAsset assetId toCustodianWallet)

/-- The status transaction; the status of a token no modelled handler reads. -/
def setAssetStatus (assetId : String) : Promise Unit := do
  ensureInitialized besu
  let _ ← requireAssetToken assetId
  view fun _ => ()

/-- An argument of a contract call. -/
def encodeUint256 (value : ℤ) : Promise ℕ :=
  if 0 ≤ value ∧ value < 2 ^ 256 then pure value.toNat else throw (.other "value out-of-bounds")

/-- The transaction, with the dispute id that its receipt names. -/
def raiseDisputeIn (tokenId : ℕ) (evidenceHash : String) (w : World) :
    (Except String String × ℕ) × World :=
  let outcome := submitIn besu (.raiseDispute tokenId evidenceHash) w
  ((outcome.1, w.ledger.disputes.length + 1), outcome.2)

/-- Sent with the auditor's key. -/
def auditorRaiseDispute (assetId evidenceHash : String) : Promise (String × ℕ) := do
  let tokenId ← requireAssetToken assetId
  ensureInitialized besu
  if besu.secondSignerPrivateKey.getD "" = "" then
    throw (.other "Auditor signer is not configured (BLOCKCHAIN_AUDITOR_PRIVATE_KEY)")
  else do
    match ← Async.statement (raiseDisputeIn besu tokenId evidenceHash) with
    | (.error message, _) => throw (.other message)
    | (.ok transactionHash, disputeId) => pure (transactionHash, disputeId)

def resolveDispute (disputeId : ℤ) (upheld : Bool) : Promise String := do
  ensureInitialized besu
  let disputeId ← encodeUint256 disputeId
  submit besu (.resolveDispute disputeId upheld)

/-! ### What a call does to the chain -/

section

variable {I : World → Prop} {T : World → World → Prop}

theorem ensureInitialized_obeys : (ensureInitialized besu).Obeys I T := by
  unfold ensureInitialized
  cases besu.initializationError with
  | none => exact Async.obeys_pure _
  | some message => exact Async.obeys_throw _

theorem encodeUint256_obeys (value : ℤ) : (encodeUint256 value).Obeys I T :=
  .ite (Async.obeys_pure _) (Async.obeys_throw _)

theorem view_obeys {α : Type} (hT : ∀ s, T s s) (f : Ledger → α) : (view f).Obeys I T := by
  apply (Async.obeys_query hT).bind
  rintro ⟨_ | message, a⟩
  · exact Async.obeys_pure _
  · exact Async.obeys_throw _

theorem getAsset_obeys (hT : ∀ s, T s s) (assetId : String) : (getAsset besu assetId).Obeys I T :=
  (ensureInitialized_obeys besu).bind fun _ => view_obeys hT _

theorem requireAssetToken_obeys (hT : ∀ s, T s s) (assetId : String) :
    (requireAssetToken assetId).Obeys I T := by
  apply (view_obeys hT _).bind
  intro asset
  cases asset with
  | none => exact Async.obeys_throw _
  | some asset => exact Async.obeys_pure _

theorem auditorRaiseDispute_obeys {assetId evidenceHash : String} (hT : ∀ s, T s s)
    (hs : ∀ s tokenId, I s → T s (submitIn besu (.raiseDispute tokenId evidenceHash) s).2) :
    (auditorRaiseDispute besu assetId evidenceHash).Obeys I T := by
  apply (requireAssetToken_obeys hT assetId).bind
  intro tokenId
  apply (ensureInitialized_obeys besu).bind
  intro _
  apply Async.Obeys.ite
  · exact Async.obeys_throw _
  · apply Async.Obeys.bind
    · exact Async.obeys_statement (f := raiseDisputeIn besu tokenId evidenceHash)
        fun s hi => hs s tokenId hi
    rintro ⟨message | transactionHash, disputeId⟩
    · exact Async.obeys_throw _
    · exact Async.obeys_pure _

theorem submit_obeys {action : ChainAction} (hT : ∀ s, I s → T s (submitIn besu action s).2) :
    (submit besu action).Obeys I T := by
  apply (Async.obeys_statement hT).bind
  rintro (message | transactionHash)
  · exact Async.obeys_throw _
  · exact Async.obeys_pure _

theorem resolveDispute_obeys {disputeId : ℤ} {upheld : Bool}
    (hs : ∀ s n, I s → T s (submitIn besu (.resolveDispute n upheld) s).2) :
    (resolveDispute besu disputeId upheld).Obeys I T := by
  apply (ensureInitialized_obeys besu).bind
  intro _
  apply (encodeUint256_obeys disputeId).bind
  intro n
  exact submit_obeys besu fun s hi => hs s n hi

end

/-! ### What a call yields -/

section

open Library.Async

variable {besu} {Q : List (World × World) → World → World → Prop} {h : List (World × World)}

/-- The statement of the transaction, which the node confirmed under the hash. -/
def Confirmed (besu : BesuConfig) (action : ChainAction) (transactionHash : String)
    (_ : List (World × World)) (s t : World) : Prop :=
  submitIn besu action s = (.ok transactionHash, t)

theorem Confirmed.confirms {action : ChainAction} {transactionHash : String} {s t : World}
    (hc : Confirmed besu action transactionHash h s t) : Confirms action transactionHash s t := by
  have hok : (submitIn besu action s).1 = .ok transactionHash := congrArg Prod.fst hc
  have ht : (submitIn besu action s).2 = t := congrArg Prod.snd hc
  exact ht ▸ submitIn_confirms besu hok

theorem submit_yields {action : ChainAction} (hs : ∀ s, Q h s (submitIn besu action s).2) :
    (submit besu action).Yields Q
      (fun transactionHash h' => h <+: h' ∧ Passed (Confirmed besu action transactionHash) h') h := by
  refine .pending hs fun s => ?_
  cases hr : (submitIn besu action s).1 with
  | error message =>
    simp only [hr]
    exact .rejected _ _
  | ok transactionHash =>
    simp only [hr]
    exact .fulfilled ⟨List.prefix_append _ _, passed_now (Prod.ext hr rfl)⟩

theorem ensureInitialized_yields : (ensureInitialized besu).Yields Q (fun _ h' => h' = h) h := by
  unfold ensureInitialized
  cases besu.initializationError with
  | none => exact .fulfilled rfl
  | some message => exact .rejected _ _

variable (hq : ∀ h s, Q h s s)

include hq

theorem view_yields {α : Type} {f : Ledger → α} :
    (view f).Yields Q (fun a h' => h <+: h' ∧
      Passed (fun h₁ s _ => h₁ = h ∧ s.ledger.refusal = none ∧ a = f s.ledger) h') h := by
  refine .pending (hq h) fun s => ?_
  cases hrefusal : s.ledger.refusal with
  | some message =>
    simp only [hrefusal]
    exact .rejected _ _
  | none =>
    simp only [hrefusal]
    exact .fulfilled ⟨List.prefix_append _ _, passed_now ⟨rfl, hrefusal, rfl⟩⟩

theorem getAsset_yields {assetId : String} : (getAsset besu assetId).Yields Q
    (fun a h' => h <+: h' ∧
      Passed (fun h₁ s _ => h₁ = h ∧ s.ledger.refusal = none ∧ a = s.ledger.find assetId) h') h := by
  apply ensureInitialized_yields.bind
  rintro _ _ rfl
  exact view_yields (f := fun ledger => ledger.find assetId) hq

theorem requireAssetToken_yields {assetId : String} :
    (requireAssetToken assetId).Yields Q (fun _ h' => h <+: h') h := by
  apply (view_yields hq).bind
  intro asset h' hr
  cases asset with
  | none => exact .rejected _ _
  | some asset => exact .fulfilled hr.1

theorem transferAsset_yields {assetId wallet : String}
    (hs : ∀ h' s, h <+: h' → Q h' s (submitIn besu (.transferAsset assetId wallet) s).2) :
    (transferAsset besu assetId wallet).Yields Q (fun transactionHash h' => h <+: h' ∧
      Passed (Confirmed besu (.transferAsset assetId wallet) transactionHash) h') h := by
  apply ensureInitialized_yields.bind
  rintro _ _ rfl
  apply (requireAssetToken_yields hq).bind
  intro _ h₂ hh
  apply (submit_yields fun s => hs h₂ s hh).weaken
  intro transactionHash h' hr
  exact ⟨hh.trans hr.1, hr.2⟩

end

end Besu

end Sampraan.Backend
