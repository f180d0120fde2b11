import Sampraan.Contracts.AssetEffects
import Mathlib.Data.Set.Function

/-! Tokens, their digests and their status, over every run of the asset registry. -/

namespace Sampraan.Contracts.SampraanAssetRegistry

open Library

variable {governance : Address} {view : View} {msg : Msg} {s t : SampraanAssetRegistry}
  {C : View × Msg × Call → SampraanAssetRegistry → Prop}
  {log : List ((View × Msg × Call) × SampraanAssetRegistry × SampraanAssetRegistry)}

def status (s : SampraanAssetRegistry) (tokenId : ℕ) : AssetStatus := (s.assets tokenId).status

def digest (s : SampraanAssetRegistry) (tokenId : ℕ) : Bytes32 := (s.assets tokenId).assetIdDigest

def custodian (s : SampraanAssetRegistry) (tokenId : ℕ) : Address := (s.assets tokenId).custodian

/-! ### Tokens and digests -/

structure KeepsTokens (s t : SampraanAssetRegistry) : Prop where
  nextTokenId : t.nextTokenId = s.nextTokenId
  assetIdToToken : t.assetIdToToken = s.assetIdToToken
  digest : ∀ n, t.digest n = s.digest n
  unregistered : ∀ n, t.status n = .none ↔ s.status n = .none

theorem KeepsTokens.of_same (h : SameCustody s t) : KeepsTokens s t where
  nextTokenId := h.nextTokenId
  assetIdToToken := h.assetIdToToken
  digest n := by rw [SampraanAssetRegistry.digest, h.assets, SampraanAssetRegistry.digest]
  unregistered n := by rw [status, h.assets, status]

theorem KeepsTokens.of_update {n : ℕ} {asset : AssetRecord}
    (hassets : t.assets = Function.update s.assets n asset)
    (hnext : t.nextTokenId = s.nextTokenId) (hids : t.assetIdToToken = s.assetIdToToken)
    (hdigest : asset.assetIdDigest = s.digest n) (hold : s.status n ≠ .none)
    (hnew : asset.status ≠ .none) : KeepsTokens s t where
  nextTokenId := hnext
  assetIdToToken := hids
  digest m := by
    rw [SampraanAssetRegistry.digest, hassets]
    by_cases hm : m = n
    · rw [hm, Function.update_self, hdigest]
    · rw [Function.update_of_ne hm, SampraanAssetRegistry.digest]
  unregistered m := by
    rw [status, hassets]
    by_cases hm : m = n
    · rw [hm, Function.update_self]
      exact iff_of_false hnew hold
    · rw [Function.update_of_ne hm, status]

theorem StatusChange.ne_none {old new : AssetStatus} (h : StatusChange old new) :
    old ≠ .none ∧ new ≠ .none := by
  cases h <;> exact ⟨nofun, nofun⟩

theorem Effect.keepsTokens (h : Effect s t) :
    (∃ assetIdDigest custodian, Registers assetIdDigest custodian s t) ∨ KeepsTokens s t := by
  obtain hsame | hregisters | ⟨n, c, h⟩ | ⟨n, new, h⟩ | ⟨n, h⟩ := h.custody_cases
  · exact .inr (.of_same hsame)
  · exact .inl hregisters
  · obtain ⟨_, hassets⟩ := h.assets
    exact .inr (.of_update hassets h.nextTokenId h.assetIdToToken rfl h.registered h.registered)
  · obtain ⟨_, hassets⟩ := h.assets
    exact .inr (.of_update hassets h.nextTokenId h.assetIdToToken rfl h.change.ne_none.1
      h.change.ne_none.2)
  · obtain ⟨_, hassets⟩ := h.assets
    exact .inr (.of_update hassets h.nextTokenId h.assetIdToToken rfl h.live.1 nofun)

structure Tokens (s : SampraanAssetRegistry) : Prop where
  next_pos : 1 ≤ s.nextTokenId
  registered : ∀ n, s.status n ≠ .none ↔ 1 ≤ n ∧ n < s.nextTokenId
  ids : ∀ d n, n ≠ 0 → (s.assetIdToToken d = n ↔ s.status n ≠ .none ∧ s.digest n = d)
  digest_ne : ∀ n, s.status n ≠ .none → s.digest n ≠ 0
  blank : ∀ n, s.status n = .none → s.digest n = 0

theorem tokens_deploy : Tokens deploy where
  next_pos := le_rfl
  registered n := iff_of_false (fun h => h rfl) fun h => by
    have hlt : n < 1 := h.2
    omega
  ids _ n hn := iff_of_false (fun h => hn (h.symm : n = 0)) fun h => h.1 rfl
  digest_ne _ h := absurd rfl h
  blank _ _ := rfl

theorem Tokens.next_unregistered (hs : Tokens s) : s.status s.nextTokenId = .none := by
  by_contra h
  exact absurd ((hs.registered _).mp h).2 (lt_irrefl _)

theorem Tokens.of_keeps (hs : Tokens s) (h : KeepsTokens s t) : Tokens t where
  next_pos := h.nextTokenId ▸ hs.next_pos
  registered n := by
    rw [Ne, h.unregistered, h.nextTokenId]
    exact hs.registered n
  ids d n hn := by
    rw [h.assetIdToToken, Ne, h.unregistered, h.digest]
    exact hs.ids d n hn
  digest_ne n hn := by
    rw [h.digest]
    exact hs.digest_ne n (mt (h.unregistered n).mpr hn)
  blank n hn := by
    rw [h.digest]
    exact hs.blank n ((h.unregistered n).mp hn)

section

variable {assetIdDigest : Bytes32} {custodian : Address}
  (h : Registers assetIdDigest custodian s t)

include h

theorem Registers.at_next : t.status s.nextTokenId = .pending ∧
    t.digest s.nextTokenId = assetIdDigest := by
  obtain ⟨asset, hassets, hdigest, hstatus, -⟩ := h.assets
  simp [status, digest, hassets, hdigest, hstatus]

theorem Registers.elsewhere {n : ℕ} (hn : n ≠ s.nextTokenId) :
    t.status n = s.status n ∧ t.digest n = s.digest n := by
  obtain ⟨asset, hassets, -⟩ := h.assets
  simp [status, digest, hassets, hn]

theorem Registers.tokens (hs : Tokens s) : Tokens t := by
  obtain ⟨hstatus, hdigest⟩ := h.at_next
  have hnone := hs.next_unregistered
  have hpos := hs.next_pos
  refine ⟨?_, fun n => ?_, fun d n hn => ?_, fun n => ?_, fun n => ?_⟩
  · rw [h.nextTokenId]
    omega
  · rw [h.nextTokenId]
    by_cases hn : n = s.nextTokenId
    · rw [hn, hstatus]
      exact iff_of_true nofun ⟨hpos, by omega⟩
    · rw [(h.elsewhere hn).1, hs.registered]
      omega
  · rw [h.assetIdToToken]
    by_cases hnext : n = s.nextTokenId
    · rw [hnext, hstatus, hdigest]
      by_cases hd : d = assetIdDigest
      · simp [hd]
      · rw [Function.update_of_ne hd, hs.ids d _ (by omega)]
        exact iff_of_false (fun hreg => hreg.1 hnone) fun hreg => hd hreg.2.symm
    · rw [(h.elsewhere hnext).1, (h.elsewhere hnext).2]
      by_cases hd : d = assetIdDigest
      · rw [hd, Function.update_self, ← hs.ids _ n hn, h.fresh]
        exact iff_of_false (fun heq => hnext heq.symm) fun heq => hn heq.symm
      · rw [Function.update_of_ne hd, hs.ids d n hn]
  · by_cases hn : n = s.nextTokenId
    · rw [hn, hdigest]
      exact fun _ => h.digest_ne
    · rw [(h.elsewhere hn).1, (h.elsewhere hn).2]
      exact hs.digest_ne n
  · by_cases hn : n = s.nextTokenId
    · rw [hn, hstatus]
      exact nofun
    · rw [(h.elsewhere hn).1, (h.elsewhere hn).2]
      exact hs.blank n

end

theorem Effect.tokens (h : Effect s t) (hs : Tokens s) : Tokens t := by
  rcases h.keepsTokens with ⟨d, c, h⟩ | h
  · exact h.tokens hs
  · exact hs.of_keeps h

theorem tokens_of_run (hr : (machine governance).Run C deploy log s) : Tokens s :=
  hr.invariant tokens_deploy fun _ _ _ hs _ ht => (run_effect ht).tokens hs

theorem does_of_run {e : (View × Msg × Call) × SampraanAssetRegistry × SampraanAssetRegistry}
    (hr : (machine governance).Run C deploy log s) (he : e ∈ log) :
    Tokens e.2.1 ∧ C e.1 e.2.1 ∧ e.1.2.2.Does governance e.1.1 e.1.2.1 e.2.1 e.2.2 := by
  obtain ⟨hs, hC, hrun⟩ := hr.mem tokens_deploy
    (fun _ _ _ hs _ ht => (run_effect ht).tokens hs) he
  exact ⟨hs, hC, run_does hrun⟩

/-! ### Custody -/

/-- The stored custodian, the ERC-721 owner and the custody history of a token. -/
def custody (s : SampraanAssetRegistry) (tokenId : ℕ) : Address × Address × List CustodyRecord :=
  (s.custodian tokenId, s.owners tokenId, s.custodyHistory tokenId)

/-- The calls that change the custody of token `n`, with what they have checked. -/
inductive Moved (governance : Address) (view : View) (msg : Msg) (s : SampraanAssetRegistry)
    (n : ℕ) : Call → Prop
  | register {d c cl m} (hn : n = s.nextTokenId) (hmanaged : Managed view msg s) :
    Moved governance view msg s n (.registerAsset d c cl m)
  | assign {c} (hmanaged : Managed view msg s)
    (hstatus : s.status n = .pending ∨ s.status n = .active) :
    Moved governance view msg s n (.assignAsset n c)
  | transfer {c} (hmanaged : Managed view msg s) (hstatus : s.status n = .active)
    (hundisputed : s.disputedAssets (s.digest n) = false) :
    Moved governance view msg s n (.transferCustody n c)
  | burn {reason} (hsender : msg.sender = governance) (hlive : s.status n ≠ .revoked) :
    Moved governance view msg s n (.governanceBurnNFT n reason)
  | force {c reason} (hsender : msg.sender = governance) :
    Moved governance view msg s n (.governanceForceTransfer n c reason)

theorem SameCustody.custody (h : SameCustody s t) (n : ℕ) : t.custody n = s.custody n := by
  simp only [SampraanAssetRegistry.custody, custodian, h.assets, h.owners, h.custodyHistory]

theorem Registers.custody {assetIdDigest : Bytes32} {c : Address}
    (h : Registers assetIdDigest c s t) {n : ℕ} (hn : n ≠ s.nextTokenId) :
    t.custody n = s.custody n := by
  obtain ⟨asset, hassets, -⟩ := h.assets
  obtain ⟨record, hhistory, -⟩ := h.custodyHistory
  simp [SampraanAssetRegistry.custody, custodian, hassets, h.owners, hhistory, hn]

theorem MovesCustody.custody {m : ℕ} {c : Address} (h : MovesCustody m c s t) {n : ℕ}
    (hn : n ≠ m) : t.custody n = s.custody n := by
  obtain ⟨_, hassets⟩ := h.assets
  obtain ⟨_, hhistory, -⟩ := h.custodyHistory
  simp [SampraanAssetRegistry.custody, custodian, hassets, h.owners, hhistory, hn]

theorem SetsStatus.custodian {m : ℕ} {new : AssetStatus} (h : SetsStatus m new s t) (n : ℕ) :
    t.custodian n = s.custodian n := by
  obtain ⟨_, hassets⟩ := h.assets
  rw [SampraanAssetRegistry.custodian, hassets]
  by_cases hn : n = m
  · rw [hn, Function.update_self, SampraanAssetRegistry.custodian]
  · rw [Function.update_of_ne hn, SampraanAssetRegistry.custodian]

theorem ChangesStatus.custody {m : ℕ} {new : AssetStatus} (h : ChangesStatus m new s t) (n : ℕ) :
    t.custody n = s.custody n := by
  simp only [SampraanAssetRegistry.custody, h.toSetsStatus.custodian, h.owners, h.custodyHistory]

theorem Burns.custody {m : ℕ} (h : Burns m s t) {n : ℕ} (hn : n ≠ m) :
    t.custody n = s.custody n := by
  simp [SampraanAssetRegistry.custody, h.toSetsStatus.custodian, h.owners, h.custodyHistory, hn]

theorem Call.Does.moved {call : Call} (h : call.Does governance view msg s t) {n : ℕ}
    (hne : t.custody n ≠ s.custody n) : Moved governance view msg s n call := by
  cases call with
  | registerAsset d c cl m => exact .register (not_imp_comm.mp h.2.2.custody hne) h.1
  | assignAsset m c =>
    obtain rfl := not_imp_comm.mp h.2.2.2.custody hne
    exact .assign h.1 h.2.2.1
  | transferCustody m c =>
    obtain rfl := not_imp_comm.mp h.2.2.2.2.custody hne
    exact .transfer h.1 h.2.2.2.1 h.2.2.1
  | activateAsset m => exact absurd (h.2.custody n) hne
  | suspendAsset m => exact absurd (h.2.custody n) hne
  | restoreAsset m => exact absurd (h.2.custody n) hne
  | revokeAsset m => exact absurd (h.2.custody n) hne
  | flagAnomaly target m reason => exact absurd (h.2.2.toSameCustody.custody n) hne
  | raiseDispute m evidenceHash reason => exact absurd (h.2.2.toSameCustody.custody n) hne
  | resolveDispute m upheld reason => exact absurd (h.2.2.toSameCustody.custody n) hne
  | storeAuditReportHash reportHash => exact absurd (h.2.toSameCustody.custody n) hne
  | governancePause => exact absurd (h.2.toSameCustody.custody n) hne
  | governanceUnpause => exact absurd (h.2.toSameCustody.custody n) hne
  | governanceBurnNFT m reason =>
    obtain rfl := not_imp_comm.mp h.2.custody hne
    exact .burn h.1 h.2.live.2
  | governanceForceTransfer m c reason =>
    obtain rfl := not_imp_comm.mp h.2.custody hne
    exact .force h.1
  | _ => exact h.elim

/-! ### The status machine -/

inductive Follows (governance : Address) (msg : Msg) (call : Call) (n : ℕ) :
    AssetStatus → AssetStatus → Prop
  | register : Follows governance msg call n .none .pending
  | change {old new : AssetStatus} (h : StatusChange old new) :
    Follows governance msg call n old new
  | burn {old : AssetStatus} {reason : String} (hcall : call = .governanceBurnNFT n reason)
    (hsender : msg.sender = governance) (hregistered : old ≠ .none) (hlive : old ≠ .revoked) :
    Follows governance msg call n old .revoked

theorem SetsStatus.status {m : ℕ} {new : AssetStatus} (h : SetsStatus m new s t) (n : ℕ) :
    t.status n = if n = m then new else s.status n := by
  obtain ⟨_, hassets⟩ := h.assets
  by_cases hn : n = m
  · simp [SampraanAssetRegistry.status, hassets, hn]
  · simp [SampraanAssetRegistry.status, hassets, hn]

theorem MovesCustody.status {m : ℕ} {c : Address} (h : MovesCustody m c s t) (n : ℕ) :
    t.status n = s.status n := by
  obtain ⟨_, hassets⟩ := h.assets
  by_cases hn : n = m
  · simp [SampraanAssetRegistry.status, hassets, hn]
  · simp [SampraanAssetRegistry.status, hassets, hn]

theorem SameCustody.status (h : SameCustody s t) (n : ℕ) : t.status n = s.status n := by
  rw [SampraanAssetRegistry.status, h.assets, SampraanAssetRegistry.status]

theorem ChangesStatus.follows {m : ℕ} {new : AssetStatus} {call : Call}
    (h : ChangesStatus m new s t) (n : ℕ) :
    t.status n = s.status n ∨ Follows governance msg call n (s.status n) (t.status n) := by
  rw [h.toSetsStatus.status]
  split
  case isTrue hn => exact .inr (.change (hn ▸ h.change))
  case isFalse => exact .inl rfl

theorem Call.Does.follows {call : Call} (h : call.Does governance view msg s t) (hs : Tokens s)
    (n : ℕ) :
    t.status n = s.status n ∨ Follows governance msg call n (s.status n) (t.status n) := by
  cases call with
  | registerAsset d c cl m =>
    by_cases hn : n = s.nextTokenId
    · rw [hn, h.2.2.at_next.1, hs.next_unregistered]
      exact .inr .register
    · exact .inl (h.2.2.elsewhere hn).1
  | assignAsset m c => exact .inl (h.2.2.2.status n)
  | transferCustody m c => exact .inl (h.2.2.2.2.status n)
  | activateAsset m => exact h.2.follows n
  | suspendAsset m => exact h.2.follows n
  | restoreAsset m => exact h.2.follows n
  | revokeAsset m => exact h.2.follows n
  | flagAnomaly target m reason => exact .inl (h.2.2.toSameCustody.status n)
  | raiseDispute m evidenceHash reason => exact .inl (h.2.2.toSameCustody.status n)
  | resolveDispute m upheld reason => exact .inl (h.2.2.toSameCustody.status n)
  | storeAuditReportHash reportHash => exact .inl (h.2.toSameCustody.status n)
  | governancePause => exact .inl (h.2.toSameCustody.status n)
  | governanceUnpause => exact .inl (h.2.toSameCustody.status n)
  | governanceBurnNFT m reason =>
    rw [h.2.toSetsStatus.status]
    split
    case isTrue hn =>
      subst hn
      exact .inr (.burn rfl h.1 h.2.live.1 h.2.live.2)
    case isFalse => exact .inl rfl
  | governanceForceTransfer m c reason => exact .inl (h.2.status n)
  | _ => exact h.elim

/-! ### Every run -/

def registeredDigests (s : SampraanAssetRegistry) : Set Bytes32 := {d | s.assetIdToToken d ≠ 0}

def tokenIds (s : SampraanAssetRegistry) : Set ℕ := {n | 1 ≤ n ∧ n < s.nextTokenId}

theorem Tokens.bijection (hs : Tokens s) :
    Set.BijOn s.assetIdToToken s.registeredDigests s.tokenIds ∧
      Set.InvOn s.digest s.assetIdToToken s.registeredDigests s.tokenIds := by
  have hinv : Set.InvOn s.digest s.assetIdToToken s.registeredDigests s.tokenIds := by
    constructor
    · exact fun d hd => ((hs.ids d _ hd).mp rfl).2
    · intro n hn
      have hpos : 1 ≤ n := hn.1
      exact (hs.ids _ n (by omega)).mpr ⟨(hs.registered n).mpr hn, rfl⟩
  refine ⟨hinv.bijOn (fun d hd => ?_) fun n hn => ?_, hinv⟩
  · exact (hs.registered _).mp ((hs.ids d _ hd).mp rfl).1
  · have hpos : 1 ≤ n := hn.1
    have htoken := (hs.ids (s.digest n) n (by omega)).mpr ⟨(hs.registered n).mpr hn, rfl⟩
    change s.assetIdToToken (s.digest n) ≠ 0
    omega

structure AssetLifecycle (governance : Address)
    (log : List ((View × Msg × Call) × SampraanAssetRegistry × SampraanAssetRegistry))
    (s : SampraanAssetRegistry) : Prop where
  statuses : ∀ e ∈ log, ∀ n, e.2.2.status n = e.2.1.status n ∨
    Follows governance e.1.2.1 e.1.2.2 n (e.2.1.status n) (e.2.2.status n)
  revoked : ∀ e ∈ log, ∀ n, e.2.1.status n = .revoked → e.2.2.status n = .revoked
  revokedCustody : ∀ e ∈ log, ∀ n, e.2.1.status n = .revoked → e.2.2.custody n ≠ e.2.1.custody n →
    ∃ toCustodian reason, e.1.2.2 = .governanceForceTransfer n toCustodian reason
  registered : ∀ n, s.status n ≠ .none ↔ n ∈ s.tokenIds
  bijection : Set.BijOn s.assetIdToToken s.registeredDigests s.tokenIds
  inverse : Set.InvOn s.digest s.assetIdToToken s.registeredDigests s.tokenIds

def sampleView : View where
  roles role account := decide (role = assetManagerRole ∧ account = 0xA11CE ∨
    role = auditorRole ∧ account = 0xA0D ∨ role = defaultAdminRole ∧ account = 0xAD)
  isActive account := decide (account = 0xB0B ∨ account = 0xCA401)

def sampleCall (sender : Address) (call : Call) : View × Msg × Call :=
  (sampleView, { sender := sender, timestamp := 1700000000 }, call)

end Sampraan.Contracts.SampraanAssetRegistry
