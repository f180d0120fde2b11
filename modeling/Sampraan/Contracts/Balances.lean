import Sampraan.Contracts.Custody
import Sampraan.Library.Tally

/-! The balances of the inherited ERC721 count the tokens, over every run of the contracts. -/

namespace Sampraan.Contracts

open Library

namespace SampraanAssetRegistry

variable {governance : Address} {view : View} {msg : Msg} {s t : SampraanAssetRegistry}
  {tokenId n : ℕ} {newOwner fromOwner custodian a : Address} {call : Call}

/-! ### One token changes hands -/

/-- The call gives the token to another owner, and does nothing else to the inherited state. -/
structure Reassigns (newOwner : Address) (tokenId : ℕ) (s t : SampraanAssetRegistry) : Prop where
  owners : t.owners = Function.update s.owners tokenId newOwner
  balances : t.balances = (updateOwner newOwner tokenId s).2.balances

theorem mint_eq (h : mint newOwner tokenId s = .ok t) : t = (updateOwner newOwner tokenId s).2 := by
  obtain ⟨-, h⟩ := revertIf_bind.mp h
  obtain ⟨-, h⟩ := revertIf_bind.mp h
  exact (pure_eq_ok.mp h).symm

theorem burn_eq (h : burn tokenId s = .ok t) : t = (updateOwner 0 tokenId s).2 := by
  obtain ⟨-, h⟩ := revertIf_bind.mp h
  exact (pure_eq_ok.mp h).symm

theorem transfer_eq (h : transfer fromOwner newOwner tokenId s = .ok t) :
    t = (updateOwner newOwner tokenId s).2 := by
  obtain ⟨-, h⟩ := revertIf_bind.mp h
  obtain ⟨-, h⟩ := revertIf_bind.mp h
  obtain ⟨-, h⟩ := revertIf_bind.mp h
  exact (pure_eq_ok.mp h).symm

theorem registerAsset_reassigns {assetIdDigest classificationDigest metadataDigest : Bytes32}
    (h : registerAsset view msg assetIdDigest custodian classificationDigest metadataDigest s =
      .ok t) : Reassigns custodian s.nextTokenId s t ∧ s.nextTokenId + 1 < 2 ^ 256 := by
  simp only [registerAsset, onlyAssetManager, bind_assoc, revertIf_bind, checkedAdd_bind] at h
  obtain ⟨-, -, -, -, -, -, hbound, h⟩ := h
  obtain ⟨s', hmint, h⟩ := bind_eq_ok.mp h
  obtain rfl := mint_eq hmint
  obtain rfl := pure_eq_ok.mp h
  exact ⟨⟨rfl, rfl⟩, hbound⟩

theorem assignAsset_reassigns (h : assignAsset view msg tokenId custodian s = .ok t) :
    Reassigns custodian tokenId s t ∨ t.owners = s.owners ∧ t.balances = s.balances := by
  simp only [assignAsset, onlyAuthorizedOperator, ownerOf, bind_assoc, revertIf_bind,
    checkedAdd_bind, pure_bind] at h
  obtain ⟨-, -, -, -, -, -, -, -, -, h⟩ := h
  split at h
  · obtain rfl := transfer_eq h
    exact .inl ⟨rfl, rfl⟩
  · obtain rfl := pure_eq_ok.mp h
    exact .inr ⟨rfl, rfl⟩

theorem transferCustody_reassigns (h : transferCustody view msg tokenId custodian s = .ok t) :
    Reassigns custodian tokenId s t := by
  simp only [transferCustody, onlyAuthorizedOperator, bind_assoc, revertIf_bind, checkedAdd_bind] at h
  obtain ⟨-, -, -, -, -, -, -, -, -, -, h⟩ := h
  obtain rfl := transfer_eq h
  exact ⟨rfl, rfl⟩

theorem governanceForceTransfer_reassigns {reason : String}
    (h : governanceForceTransfer governance msg tokenId custodian reason s = .ok t) :
    Reassigns custodian tokenId s t := by
  simp only [governanceForceTransfer, revertIf_bind, checkedAdd_bind] at h
  obtain ⟨-, -, -, -, -, -, h⟩ := h
  obtain rfl := transfer_eq h
  exact ⟨rfl, rfl⟩

theorem governanceBurnNFT_reassigns {reason : String}
    (h : governanceBurnNFT governance msg tokenId reason s = .ok t) : Reassigns 0 tokenId s t := by
  simp only [governanceBurnNFT, revertIf_bind] at h
  obtain ⟨-, -, -, -, h⟩ := h
  obtain rfl := burn_eq h
  exact ⟨rfl, rfl⟩

theorem changeStatusAs_balances {newStatus : AssetStatus}
    (h : changeStatusAs view msg newStatus tokenId s = .ok t) : t.balances = s.balances := by
  simp only [changeStatusAs, onlyAuthorizedOperator, bind_assoc, revertIf_bind, changeStatus,
    pure_eq_ok] at h
  obtain ⟨-, -, -, -, -, -, rfl⟩ := h
  rfl

/-! ### What the balances count -/

/-- Each account's balance is the number of its tokens among the first `n`. -/
def CountedTo (n : ℕ) (s : SampraanAssetRegistry) : Prop :=
  ∀ a, s.balances a = if a = 0 then 0 else tally s.owners n a

theorem CountedTo.succ (hs : CountedTo n s) (hn : s.owners n = 0) : CountedTo (n + 1) s := by
  intro a
  rw [hs a, tally_succ, hn]
  split
  · rfl
  · rename_i ha
    rw [if_neg (Ne.symm ha)]
    rfl

/-- A debit or a credit leaves the zero address alone. -/
theorem update_ne_zero {balances : Address → ℕ} {b : Address} {v : ℕ} :
    (if b ≠ 0 then Function.update balances b v else balances) a =
      if b = a ∧ a ≠ 0 then v else balances a := by
  by_cases hb : b = a
  · subst hb
    by_cases hzero : b = 0
    · rw [if_neg (not_not.mpr hzero), if_neg fun h => h.2 hzero]
    · rw [if_pos hzero, if_pos ⟨rfl, hzero⟩, Function.update_self]
  · have hnot : ¬ (b = a ∧ a ≠ 0) := fun h => hb h.1
    rw [if_neg hnot]
    split
    · exact Function.update_of_ne (Ne.symm hb) ..
    · rfl

/-- Neither the debit nor the credit of `_update` wraps around. -/
theorem CountedTo.reassigns (hs : CountedTo n s) (h : Reassigns newOwner tokenId s t)
    (hn : n < 2 ^ 256) (htoken : tokenId < n) : CountedTo n t := by
  intro a
  have hbalance := hs a
  rw [h.balances, h.owners]
  simp only [updateOwner, update_ne_zero]
  by_cases ha : a = 0
  · subst ha
    simpa using hbalance
  rw [if_neg ha] at hbalance ⊢
  have hupdate := tally_update (f := s.owners) (x := newOwner) (a := a) htoken
  have hle : tally s.owners n a ≤ n := tally_le
  have hle' : tally (Function.update s.owners tokenId newOwner) n a ≤ n := tally_le
  have hpos : s.owners tokenId = a → 0 < tally s.owners n a := tally_pos htoken
  simp only [ne_eq, ha, not_false_eq_true, and_true]
  by_cases hnew : newOwner = a <;> by_cases hprevious : s.owners tokenId = a
  · subst hnew
    have hpositive := hpos hprevious
    simp only [hprevious, ha, if_true, not_false_eq_true, and_true, hbalance] at hupdate ⊢
    omega
  · subst hnew
    simp only [hprevious, ha, if_true, if_false, false_and, hbalance] at hupdate ⊢
    omega
  · have hpositive := hpos hprevious
    simp only [hprevious, hnew, if_true, if_false, hbalance] at hupdate ⊢
    omega
  · simp only [hprevious, hnew, if_false, hbalance] at hupdate ⊢
    omega

/-! ### Every call -/

structure Counted (s : SampraanAssetRegistry) : Prop where
  balances : CountedTo s.nextTokenId s
  bound : s.nextTokenId < 2 ^ 256

theorem counted_deploy : Counted deploy where
  balances a := by
    by_cases ha : a = 0
    · rw [if_pos ha]
      rfl
    · have hnone : tally deploy.owners 1 a = 0 := by
        have hzero : deploy.owners 0 ≠ a := Ne.symm ha
        rw [tally_succ, if_neg hzero]
        rfl
      rw [if_neg ha]
      exact hnone.symm
  bound := by simp [deploy]

theorem Counted.of_same (hs : Counted s) (howners : t.owners = s.owners)
    (hbalances : t.balances = s.balances) (hnext : t.nextTokenId = s.nextTokenId) : Counted t where
  balances a := by
    rw [hbalances, howners, hnext]
    exact hs.balances a
  bound := hnext ▸ hs.bound

theorem Counted.reassigns (hs : Counted s) (h : Reassigns newOwner tokenId s t) (ht : Tokens s)
    (hregistered : s.status tokenId ≠ .none) (hnext : t.nextTokenId = s.nextTokenId) :
    Counted t where
  balances := by
    rw [hnext]
    exact hs.balances.reassigns h hs.bound ((ht.registered tokenId).mp hregistered).2
  bound := hnext ▸ hs.bound

theorem Registers.counted {assetIdDigest : Bytes32} (h : Registers assetIdDigest custodian s t)
    (hr : Reassigns custodian s.nextTokenId s t) (hbound : s.nextTokenId + 1 < 2 ^ 256)
    (hs : Counted s) : Counted t where
  balances := by
    rw [h.nextTokenId]
    exact (hs.balances.succ h.unowned).reassigns hr hbound (Nat.lt_succ_self _)
  bound := h.nextTokenId ▸ hbound

theorem run_counted (h : run governance view msg s call = .ok t) (ht : Tokens s) (hs : Counted s) :
    Counted t := by
  have hdoes := run_does h
  cases call with
  | registerAsset assetIdDigest custodian classificationDigest metadataDigest =>
    obtain ⟨hr, hbound⟩ := registerAsset_reassigns h
    exact hdoes.2.2.counted hr hbound hs
  | assignAsset tokenId custodian =>
    have hmoves := hdoes.2.2.2
    rcases assignAsset_reassigns h with hr | ⟨howners, hbalances⟩
    · exact hs.reassigns hr ht hmoves.registered hmoves.nextTokenId
    · exact hs.of_same howners hbalances hmoves.nextTokenId
  | transferCustody tokenId toCustodian =>
    have hmoves := hdoes.2.2.2.2
    exact hs.reassigns (transferCustody_reassigns h) ht hmoves.registered hmoves.nextTokenId
  | governanceForceTransfer tokenId toCustodian reason =>
    have hmoves := hdoes.2
    exact hs.reassigns (governanceForceTransfer_reassigns h) ht hmoves.registered hmoves.nextTokenId
  | governanceBurnNFT tokenId reason =>
    have hburns := hdoes.2
    exact hs.reassigns (governanceBurnNFT_reassigns h) ht hburns.live.1 hburns.nextTokenId
  | activateAsset tokenId =>
    exact hs.of_same hdoes.2.owners (changeStatusAs_balances h) hdoes.2.nextTokenId
  | suspendAsset tokenId =>
    exact hs.of_same hdoes.2.owners (changeStatusAs_balances h) hdoes.2.nextTokenId
  | restoreAsset tokenId =>
    exact hs.of_same hdoes.2.owners (changeStatusAs_balances h) hdoes.2.nextTokenId
  | revokeAsset tokenId =>
    exact hs.of_same hdoes.2.owners (changeStatusAs_balances h) hdoes.2.nextTokenId
  | flagAnomaly target tokenId reason =>
    simp only [run, flagAnomaly, revertIf_bind, checkedAdd_bind, pure_eq_ok] at h
    obtain ⟨-, -, -, -, -, rfl⟩ := h
    exact hs.of_same rfl rfl rfl
  | raiseDispute tokenId evidenceHash reason =>
    simp only [run, raiseDispute, revertIf_bind, checkedAdd_bind, pure_eq_ok] at h
    obtain ⟨-, -, -, -, -, -, -, -, rfl⟩ := h
    exact hs.of_same rfl rfl rfl
  | resolveDispute disputeId upheld reason =>
    simp only [run, resolveDispute, revertIf_bind] at h
    obtain ⟨-, -, -, -, h⟩ := h
    split at h
    · obtain ⟨-, h⟩ := checkedSub_bind.mp h
      obtain rfl := pure_eq_ok.mp h
      exact hs.of_same rfl rfl rfl
    · obtain rfl := pure_eq_ok.mp h
      exact hs.of_same rfl rfl rfl
  | storeAuditReportHash reportHash =>
    simp only [run, storeAuditReportHash, revertIf_bind, checkedAdd_bind, pure_eq_ok] at h
    obtain ⟨-, -, -, rfl⟩ := h
    exact hs.of_same rfl rfl rfl
  | governancePause =>
    simp only [run, governancePause, revertIf_bind, pure_eq_ok] at h
    obtain ⟨-, -, rfl⟩ := h
    exact hs.of_same rfl rfl rfl
  | governanceUnpause =>
    simp only [run, governanceUnpause, revertIf_bind, pure_eq_ok] at h
    obtain ⟨-, -, rfl⟩ := h
    exact hs.of_same rfl rfl rfl
  | _ => exact hdoes.elim

theorem counted_of_run {C : View × Msg × Call → SampraanAssetRegistry → Prop}
    {log : List ((View × Msg × Call) × SampraanAssetRegistry × SampraanAssetRegistry)}
    (hr : (machine governance).Run C deploy log s) : Tokens s ∧ Counted s :=
  hr.invariant (I := fun s => Tokens s ∧ Counted s) ⟨tokens_deploy, counted_deploy⟩
    fun _ _ _ hs _ ht => ⟨(run_effect ht).tokens hs.1, run_counted ht hs.1 hs.2⟩

/-! ### The number of tokens -/

def Call.mints : Call → Bool
  | .registerAsset .. => true
  | _ => false

def Call.burns : Call → Bool
  | .governanceBurnNFT .. => true
  | _ => false

/-- How many tokens have no owner; the token 0 is never minted. -/
def ownerless (s : SampraanAssetRegistry) : ℕ := tally s.owners s.nextTokenId 0

theorem MovesCustody.ownerless_eq (h : MovesCustody tokenId custodian s t) (ht : Tokens s) :
    ownerless t = ownerless s := by
  have hlt := ((ht.registered tokenId).mp h.registered).2
  have hupdate := tally_update (f := s.owners) (x := custodian) (a := 0) hlt
  rw [if_neg h.owned, if_neg h.custodian_ne] at hupdate
  rw [ownerless, h.owners, h.nextTokenId]
  exact hupdate

theorem Burns.ownerless_eq (h : Burns tokenId s t) (ht : Tokens s) : ownerless t = ownerless s + 1 := by
  have hlt := ((ht.registered tokenId).mp h.live.1).2
  have hupdate := tally_update (f := s.owners) (x := 0) (a := 0) hlt
  rw [if_neg h.owned, if_pos rfl] at hupdate
  rw [ownerless, h.owners, h.nextTokenId]
  exact hupdate

theorem Registers.ownerless_eq {assetIdDigest : Bytes32} (h : Registers assetIdDigest custodian s t) :
    ownerless t = ownerless s := by
  rw [ownerless, h.owners, h.nextTokenId, tally_succ, Function.update_self,
    if_neg h.custodian_ne, tally_update_of_le le_rfl]
  rfl

theorem SameCustody.ownerless_eq (h : SameCustody s t) : ownerless t = ownerless s := by
  rw [ownerless, h.owners, h.nextTokenId]
  rfl

theorem ChangesStatus.ownerless_eq {newStatus : AssetStatus} (h : ChangesStatus tokenId newStatus s t) :
    ownerless t = ownerless s := by
  rw [ownerless, h.owners, h.nextTokenId]
  rfl

/-- A registration adds a token, and a burn takes one from its owner. -/
structure Supplies (call : Call) (s t : SampraanAssetRegistry) : Prop where
  minted : t.nextTokenId = s.nextTokenId + if call.mints then 1 else 0
  burned : ownerless t = ownerless s + if call.burns then 1 else 0

theorem run_supplies (h : run governance view msg s call = .ok t) (ht : Tokens s) :
    Supplies call s t := by
  have hdoes := run_does h
  cases call with
  | registerAsset assetIdDigest custodian classificationDigest metadataDigest =>
    exact ⟨hdoes.2.2.nextTokenId, hdoes.2.2.ownerless_eq⟩
  | assignAsset tokenId custodian =>
    exact ⟨hdoes.2.2.2.nextTokenId, hdoes.2.2.2.ownerless_eq ht⟩
  | transferCustody tokenId toCustodian =>
    exact ⟨hdoes.2.2.2.2.nextTokenId, hdoes.2.2.2.2.ownerless_eq ht⟩
  | governanceForceTransfer tokenId toCustodian reason =>
    exact ⟨hdoes.2.nextTokenId, hdoes.2.ownerless_eq ht⟩
  | governanceBurnNFT tokenId reason => exact ⟨hdoes.2.nextTokenId, hdoes.2.ownerless_eq ht⟩
  | activateAsset tokenId => exact ⟨hdoes.2.nextTokenId, hdoes.2.ownerless_eq⟩
  | suspendAsset tokenId => exact ⟨hdoes.2.nextTokenId, hdoes.2.ownerless_eq⟩
  | restoreAsset tokenId => exact ⟨hdoes.2.nextTokenId, hdoes.2.ownerless_eq⟩
  | revokeAsset tokenId => exact ⟨hdoes.2.nextTokenId, hdoes.2.ownerless_eq⟩
  | flagAnomaly target tokenId reason => exact ⟨hdoes.2.2.nextTokenId, hdoes.2.2.ownerless_eq⟩
  | raiseDispute tokenId evidenceHash reason => exact ⟨hdoes.2.2.nextTokenId, hdoes.2.2.ownerless_eq⟩
  | resolveDispute disputeId upheld reason => exact ⟨hdoes.2.2.nextTokenId, hdoes.2.2.ownerless_eq⟩
  | storeAuditReportHash reportHash => exact ⟨hdoes.2.nextTokenId, hdoes.2.ownerless_eq⟩
  | governancePause => exact ⟨hdoes.2.nextTokenId, hdoes.2.ownerless_eq⟩
  | governanceUnpause => exact ⟨hdoes.2.nextTokenId, hdoes.2.ownerless_eq⟩
  | _ => exact hdoes.elim

/-- The owners of the tokens share out what has been minted and not burned. -/
theorem sum_balances (hs : Counted s) (holders : Finset Address) (hzero : 0 ∉ holders)
    (hall : ∀ n < s.nextTokenId, s.owners n ≠ 0 → s.owners n ∈ holders) :
    (∑ a ∈ holders, s.balances a) + ownerless s = s.nextTokenId := by
  have hsum := sum_tally (f := s.owners) (n := s.nextTokenId) (s := insert 0 holders) fun n hn => by
    by_cases howner : s.owners n = 0
    · exact Finset.mem_insert.mpr (.inl howner)
    · exact Finset.mem_insert.mpr (.inr (hall n hn howner))
  rw [Finset.sum_insert hzero] at hsum
  have hbalances : ∑ a ∈ holders, s.balances a = ∑ a ∈ holders, tally s.owners s.nextTokenId a := by
    apply Finset.sum_congr rfl
    intro a ha
    have hne : a ≠ 0 := fun h => hzero (h ▸ ha)
    rw [hs.balances a, if_neg hne]
  rw [hbalances, ownerless]
  omega

end SampraanAssetRegistry

/-! ### The contracts together -/

namespace Chain

open SampraanAssetRegistry

variable {governance : Address} {s t : Chain} {C : Msg × Call → Chain → Prop}
  {accessControl : SampraanAccessControl} {log : List ((Msg × Call) × Chain × Chain)}

def mints (e : (Msg × Call) × Chain × Chain) : Bool :=
  match e.1.2 with
  | .assetRegistry call => call.mints
  | _ => false

def burns (e : (Msg × Call) × Chain × Chain) : Bool :=
  match e.1.2 with
  | .assetRegistry call => call.burns
  | _ => false

/-- The tokens in the custody of the account, but for those that governance has burned. -/
def heldBy (log : List ((Msg × Call) × Chain × Chain)) (s : Chain) (a : Address) : Set ℕ :=
  {n | s.assetRegistry.status n ≠ .none ∧ ¬ Burned log n ∧ s.assetRegistry.custodian n = a}

/-- Every account's balance is the number of tokens in its custody, and together the balances are
what has been minted and not burned. -/
structure BalancesCounted (log : List ((Msg × Call) × Chain × Chain)) (s : Chain) : Prop where
  finite : ∀ a, (heldBy log s a).Finite
  balance : ∀ a, s.assetRegistry.balances a = (heldBy log s a).ncard
  supply : ∃ holders : Finset Address, (∀ a, a ∉ holders → s.assetRegistry.balances a = 0) ∧
    (∑ a ∈ holders, s.assetRegistry.balances a) + log.countP burns = log.countP mints

theorem supply_of_run (hr : (machine governance).Run C (deploy accessControl) log s) :
    s.assetRegistry.nextTokenId = log.countP mints + 1 ∧
      ownerless s.assetRegistry = log.countP burns + 1 := by
  induction hr with
  | init => exact ⟨rfl, rfl⟩
  | @call log s k t hr hk ht ih =>
    obtain ⟨htokens, -⟩ := counted_of_run (assetRegistry_run hr)
    have hdoes := run_does ht
    obtain ⟨msg, call⟩ := k
    rw [List.countP_append, List.countP_append, List.countP_singleton, List.countP_singleton]
    cases call with
    | assetRegistry call =>
      obtain ⟨hminted, hburned⟩ := run_supplies hdoes.1 htokens
      rw [hminted, hburned, ih.1, ih.2]
      exact ⟨Nat.add_right_comm .., Nat.add_right_comm ..⟩
    | accessControl call =>
      rw [hdoes.2.2]
      exact ih
    | identityRegistry call =>
      rw [hdoes.2.2]
      exact ih

/-- A token is held by its custodian until governance burns it, and then by no one. -/
theorem heldBy_eq (hr : (machine governance).Run C (deploy accessControl) log s) {a : Address}
    (ha : a ≠ 0) : heldBy log s a = ↑((Finset.range s.assetRegistry.nextTokenId).filter
      (s.assetRegistry.owners · = a)) := by
  obtain ⟨htokens, haligned⟩ := aligned_of_run (assetRegistry_run hr)
  ext n
  have hdead := dead_iff_burned hr (n := n)
  rw [Finset.mem_coe, Finset.mem_filter, Finset.mem_range]
  constructor
  · rintro ⟨hregistered, hnot, hcustodian⟩
    have howned : s.assetRegistry.owners n ≠ 0 := fun hzero => hnot (hdead.mp ⟨hregistered, hzero⟩)
    refine ⟨((htokens.registered n).mp hregistered).2, ?_⟩
    rw [← hcustodian]
    exact ((haligned n).owner hregistered).resolve_right howned
  · rintro ⟨-, howner⟩
    have howned : s.assetRegistry.owners n ≠ 0 := howner ▸ ha
    have hregistered : s.assetRegistry.status n ≠ .none := fun hnone =>
      howned ((haligned n).unminted hnone).1
    refine ⟨hregistered, fun hburned => howned (hdead.mpr hburned).2, ?_⟩
    rw [← howner]
    exact (((haligned n).owner hregistered).resolve_right howned).symm

theorem heldBy_zero (hr : (machine governance).Run C (deploy accessControl) log s) :
    heldBy log s 0 = ∅ := by
  obtain ⟨-, haligned⟩ := aligned_of_run (assetRegistry_run hr)
  apply Set.eq_empty_of_forall_notMem
  rintro n ⟨hregistered, -, hcustodian⟩
  exact (haligned n).custodian_ne hregistered hcustodian

theorem balances_counted (hr : (machine governance).Run C (deploy accessControl) log s) :
    BalancesCounted log s := by
  obtain ⟨-, hcounted⟩ := counted_of_run (assetRegistry_run hr)
  have hbalances := hcounted.balances
  refine ⟨fun a => ?_, fun a => ?_, ?_⟩
  · by_cases ha : a = 0
    · rw [ha, heldBy_zero hr]
      exact Set.finite_empty
    · rw [heldBy_eq hr ha]
      exact Finset.finite_toSet _
  · by_cases ha : a = 0
    · rw [ha, heldBy_zero hr, Set.ncard_empty]
      simpa using hbalances 0
    · rw [heldBy_eq hr ha, Set.ncard_coe_finset, hbalances a, if_neg ha, tally]
  · let holders := ((Finset.range s.assetRegistry.nextTokenId).image s.assetRegistry.owners).erase 0
    obtain ⟨hminted, hburned⟩ := supply_of_run hr
    have hsum := sum_balances hcounted holders (Finset.notMem_erase 0 _) fun n hn howned =>
      Finset.mem_erase.mpr ⟨howned, Finset.mem_image_of_mem _ (Finset.mem_range.mpr hn)⟩
    refine ⟨holders, fun a ha => ?_, by omega⟩
    rw [hbalances a]
    split
    · rfl
    · rename_i hne
      refine Finset.card_eq_zero.mpr (Finset.filter_eq_empty_iff.mpr fun n hn howner => ha ?_)
      exact Finset.mem_erase.mpr ⟨hne, howner ▸ Finset.mem_image_of_mem _ hn⟩

def sampleBurn : List (Msg × Call) :=
  sampleCalls ++
    [({ sender := 0xA11CE, timestamp := 1700000000 },
        .assetRegistry (.registerAsset 0xA55E8 0xCA401 0xC1 0x3D)),
      ({ sender := 0x60, timestamp := 1700000000 },
        .assetRegistry (.governanceBurnNFT 1 "withdrawn"))]

theorem balances_counted_sample : ∃ log s, s.assetRegistry.balances 0xCA401 = 1 ∧
    s.assetRegistry.balances 0xDA7E = 0 ∧ log.countP mints = 2 ∧ BalancesCounted log s := by
  obtain ⟨⟨log, s⟩, hexec, hcarol, hdave, hmints⟩ : ∃ r, (machine 0x60).exec (fun _ _ => True)
      sampleBurn [] (deploy SampraanAccessControl.sampleState) = some r ∧
        r.2.assetRegistry.balances 0xCA401 = 1 ∧ r.2.assetRegistry.balances 0xDA7E = 0 ∧
          r.1.countP mints = 2 := ⟨_, rfl, rfl, rfl, rfl⟩
  exact ⟨log, s, hcarol, hdave, hmints, balances_counted (Machine.exec_run .init hexec)⟩

end Chain

end Sampraan.Contracts
