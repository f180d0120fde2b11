import Sampraan.Contracts.Custody

/-! The events with which the asset registry reports a change of custody, and the records it keeps of
them. -/

namespace Sampraan.Contracts

open Library

/-- The other events of the registry report no custody. -/
inductive CustodyEvent where
  | assetAssigned (tokenId : ℕ) (assetIdDigest : Bytes32) (custodian operator : Address)
    (assignedAt : ℕ)
  | assetTransferred (tokenId : ℕ) (assetIdDigest : Bytes32)
    (fromCustodian toCustodian operator : Address) (transferredAt : ℕ)
  | forcedTransfer (tokenId : ℕ) (fromCustodian toCustodian actor : Address) (reason : String)
    (atTime : ℕ)
  deriving DecidableEq

namespace SampraanAssetRegistry

/-- The event that the call emits, on the state before it. -/
def Call.custodyEvent (msg : Msg) (s : SampraanAssetRegistry) : Call → Option CustodyEvent
  | .assignAsset tokenId custodian =>
    some (.assetAssigned tokenId (s.assets tokenId).assetIdDigest custodian msg.sender
      (uint64 msg.timestamp))
  | .transferCustody tokenId toCustodian =>
    some (.assetTransferred tokenId (s.assets tokenId).assetIdDigest (s.assets tokenId).custodian
      toCustodian msg.sender (uint64 msg.timestamp))
  | .governanceForceTransfer tokenId toCustodian reason =>
    some (.forcedTransfer tokenId (s.assets tokenId).custodian toCustodian msg.sender reason
      (uint64 msg.timestamp))
  | _ => none

def moveRecord (msg : Msg) (s : SampraanAssetRegistry) (tokenId : ℕ) (toCustodian : Address) :
    CustodyRecord where
  fromCustodian := (s.assets tokenId).custodian
  toCustodian := toCustodian
  operator := msg.sender
  atTime := uint64 msg.timestamp

/-- The record that a move of the token adds to its history. -/
def Call.moveOf (n : ℕ) (msg : Msg) (s : SampraanAssetRegistry) : Call → Option CustodyRecord
  | .assignAsset tokenId custodian =>
    if tokenId = n then some (moveRecord msg s tokenId custodian) else none
  | .transferCustody tokenId toCustodian =>
    if tokenId = n then some (moveRecord msg s tokenId toCustodian) else none
  | .governanceForceTransfer tokenId toCustodian _ =>
    if tokenId = n then some (moveRecord msg s tokenId toCustodian) else none
  | _ => none

variable {governance : Address} {view : View} {msg : Msg} {s t : SampraanAssetRegistry}
  {tokenId n : ℕ} {custodian : Address} {call : Call}

/-! ### The records of one call -/

def Pushes (tokenId : ℕ) (record : CustodyRecord) (s t : SampraanAssetRegistry) : Prop :=
  t.custodyHistory = Function.update s.custodyHistory tokenId (s.custodyHistory tokenId ++ [record])

theorem assignAsset_pushes (h : assignAsset view msg tokenId custodian s = .ok t) :
    Pushes tokenId (moveRecord msg s tokenId custodian) s t := by
  simp only [assignAsset, onlyAuthorizedOperator, ownerOf, bind_assoc, revertIf_bind,
    checkedAdd_bind, pure_bind, not_not, not_or] at h
  obtain ⟨-, -, -, -, -, -, -, -, -, h⟩ := h
  split at h
  · obtain ⟨-, balances, rfl⟩ := transfer_ok h
    rfl
  · rw [pure_eq_ok] at h
    subst h
    rfl

theorem transferCustody_pushes (h : transferCustody view msg tokenId custodian s = .ok t) :
    Pushes tokenId (moveRecord msg s tokenId custodian) s t := by
  simp only [transferCustody, onlyAuthorizedOperator, bind_assoc, revertIf_bind, checkedAdd_bind,
    not_not] at h
  obtain ⟨-, -, -, -, -, -, -, -, -, -, h⟩ := h
  obtain ⟨-, balances, rfl⟩ := transfer_ok h
  rfl

theorem governanceForceTransfer_pushes {reason : String}
    (h : governanceForceTransfer governance msg tokenId custodian reason s = .ok t) :
    Pushes tokenId (moveRecord msg s tokenId custodian) s t := by
  simp only [governanceForceTransfer, revertIf_bind, checkedAdd_bind, not_not] at h
  obtain ⟨-, -, -, -, -, -, h⟩ := h
  obtain ⟨-, balances, rfl⟩ := transfer_ok h
  rfl

theorem Aligned.history_ne_nil (hs : Aligned s n) (hregistered : s.status n ≠ .none) :
    s.custodyHistory n ≠ [] := by
  intro hnil
  have hlast := hs.last hregistered
  rw [hnil] at hlast
  exact hs.custodian_ne hregistered hlast.symm

theorem Pushes.tail {record : CustodyRecord} (h : Pushes tokenId record s t) (hs : Aligned s tokenId)
    (hregistered : s.status tokenId ≠ .none) (n : ℕ) :
    (t.custodyHistory n).tail =
      (s.custodyHistory n).tail ++ (if tokenId = n then some record else none).toList := by
  rw [h]
  by_cases hn : tokenId = n
  · subst hn
    rw [Function.update_self, if_pos rfl, List.tail_append_of_ne_nil (hs.history_ne_nil hregistered)]
    rfl
  · rw [Function.update_of_ne (Ne.symm hn), if_neg hn, Option.toList_none, List.append_nil]

/-- Behind the record of the mint, the history grows by the moves of the token. -/
theorem run_tail (h : run governance view msg s call = .ok t) (htokens : Tokens s)
    (hs : ∀ n, Aligned s n) (n : ℕ) :
    (t.custodyHistory n).tail = (s.custodyHistory n).tail ++ (call.moveOf n msg s).toList := by
  have hdoes := run_does h
  have hunmoved (hsame : t.custodyHistory = s.custodyHistory) :
      (t.custodyHistory n).tail = (s.custodyHistory n).tail ++ (none : Option CustodyRecord).toList := by
    rw [hsame, Option.toList_none, List.append_nil]
  cases call with
  | assignAsset tokenId custodian =>
    exact (assignAsset_pushes h).tail (hs tokenId) hdoes.2.2.2.registered n
  | transferCustody tokenId toCustodian =>
    exact (transferCustody_pushes h).tail (hs tokenId) hdoes.2.2.2.2.registered n
  | governanceForceTransfer tokenId toCustodian reason =>
    exact (governanceForceTransfer_pushes h).tail (hs tokenId) hdoes.2.registered n
  | registerAsset assetIdDigest custodian classificationDigest metadataDigest =>
    obtain ⟨record, hhistory, -⟩ := hdoes.2.2.custodyHistory
    have hnil := ((hs s.nextTokenId).unminted htokens.next_unregistered).2
    by_cases hn : n = s.nextTokenId
    · subst hn
      rw [hhistory, Function.update_self, hnil]
      rfl
    · rw [hhistory, Function.update_of_ne hn]
      exact (List.append_nil _).symm
  | activateAsset tokenId => exact hunmoved hdoes.2.custodyHistory
  | suspendAsset tokenId => exact hunmoved hdoes.2.custodyHistory
  | restoreAsset tokenId => exact hunmoved hdoes.2.custodyHistory
  | revokeAsset tokenId => exact hunmoved hdoes.2.custodyHistory
  | flagAnomaly target tokenId reason => exact hunmoved hdoes.2.2.custodyHistory
  | raiseDispute tokenId evidenceHash reason => exact hunmoved hdoes.2.2.custodyHistory
  | resolveDispute disputeId upheld reason => exact hunmoved hdoes.2.2.custodyHistory
  | storeAuditReportHash reportHash => exact hunmoved hdoes.2.custodyHistory
  | governancePause => exact hunmoved hdoes.2.custodyHistory
  | governanceUnpause => exact hunmoved hdoes.2.custodyHistory
  | governanceBurnNFT tokenId reason => exact hunmoved hdoes.2.custodyHistory
  | _ => exact hdoes.elim

end SampraanAssetRegistry

/-! ### The records of a run -/

namespace Chain

open SampraanAssetRegistry

/-- A committed call, with the states around it. -/
abbrev Committed := (Msg × Call) × Chain × Chain

def custodyEvent (e : Committed) : Option CustodyEvent :=
  match e.1.2 with
  | .assetRegistry call => call.custodyEvent e.1.1 e.2.1.assetRegistry
  | _ => none

def moveOf (n : ℕ) (e : Committed) : Option CustodyRecord :=
  match e.1.2 with
  | .assetRegistry call => call.moveOf n e.1.1 e.2.1.assetRegistry
  | _ => none

variable {governance : Address} {C : Msg × Call → Chain → Prop} {s : Chain}
  {accessControl : SampraanAccessControl} {log : List Committed}

theorem custodyHistory_tail (hr : (machine governance).Run C (deploy accessControl) log s) (n : ℕ) :
    (s.assetRegistry.custodyHistory n).tail = log.filterMap (moveOf n) := by
  induction hr with
  | init => rfl
  | @call log s k t hr hk ht ih =>
    obtain ⟨htokens, haligned⟩ := aligned_of_run (assetRegistry_run hr)
    have hdoes := run_does ht
    rw [List.filterMap_append, ← ih]
    obtain ⟨msg, call⟩ := k
    cases call with
    | assetRegistry call =>
      rw [run_tail hdoes.1 htokens haligned n]
      rfl
    | accessControl call =>
      rw [hdoes.2.2]
      exact (List.append_nil _).symm
    | identityRegistry call =>
      rw [hdoes.2.2]
      exact (List.append_nil _).symm

end Chain

end Sampraan.Contracts
