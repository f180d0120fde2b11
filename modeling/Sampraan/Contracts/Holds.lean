import Sampraan.Contracts.Disputes

/-! What a dispute and the pause flag hold back. -/

namespace Sampraan.Contracts.SampraanAssetRegistry

open Library

variable {governance : Address} {view : View} {msg : Msg} {s t : SampraanAssetRegistry}
  {log : List ((View × Msg × Call) × SampraanAssetRegistry × SampraanAssetRegistry)}

/-! ### Disputed assets -/

def KeepsHold (governance : Address)
    (e : (View × Msg × Call) × SampraanAssetRegistry × SampraanAssetRegistry) : Prop :=
  ∀ n, e.2.1.disputedAssets (e.2.1.digest n) = true → e.2.2.custody n ≠ e.2.1.custody n →
    e.1.2.1.sender = governance ∧
      ((∃ toCustodian reason, e.1.2.2 = .governanceForceTransfer n toCustodian reason) ∨
        ∃ reason, e.1.2.2 = .governanceBurnNFT n reason)

/-- `assignAsset` has no dispute check. -/
def assignsDisputed (s : SampraanAssetRegistry) : Call → Bool
  | .assignAsset tokenId _ => s.disputedAssets (s.digest tokenId)
  | _ => false

theorem Disputes.undisputed_zero (hs : Disputes s) (ht : Tokens s) :
    s.disputedAssets 0 = false := by
  by_contra hheld
  rw [Bool.not_eq_false] at hheld
  obtain ⟨hregistered, hdigest⟩ := (ht.ids 0 _ (hs.known 0 hheld)).mp rfl
  exact ht.digest_ne _ hregistered hdigest

theorem Moved.keepsHold {n : ℕ} {call : Call} (h : Moved governance view msg s n call)
    (ht : Tokens s) (hs : Disputes s) (hheld : s.disputedAssets (s.digest n) = true)
    (hassign : assignsDisputed s call = false) : msg.sender = governance ∧
      ((∃ toCustodian reason, call = .governanceForceTransfer n toCustodian reason) ∨
        ∃ reason, call = .governanceBurnNFT n reason) := by
  cases h with
  | register hn hmanaged =>
    -- the next token has no digest yet, and nothing is on hold for the zero digest
    rw [hn, ht.blank _ ht.next_unregistered, hs.undisputed_zero ht] at hheld
    cases hheld
  | assign hmanaged hstatus =>
    rw [assignsDisputed, hheld] at hassign
    cases hassign
  | transfer hmanaged hstatus hundisputed =>
    rw [hundisputed] at hheld
    cases hheld
  | burn hsender hlive => exact ⟨hsender, .inr ⟨_, rfl⟩⟩
  | force hsender => exact ⟨hsender, .inl ⟨_, _, rfl⟩⟩

theorem MovesCustody.custody_ne {n : ℕ} {c : Address} (h : MovesCustody n c s t) :
    t.custody n ≠ s.custody n := by
  obtain ⟨record, hhistory, -⟩ := h.custodyHistory
  intro heq
  have hsame : t.custodyHistory n = s.custodyHistory n := congrArg (fun c => c.2.2) heq
  rw [hhistory, Function.update_self] at hsame
  exact absurd (congrArg List.length hsame) (by simp)

theorem dispute_hold (hr : (machine governance).Run (fun _ _ => True) deploy log s) :
    (∀ e ∈ log, KeepsHold governance e) ↔
      ∀ e ∈ log, assignsDisputed e.2.1 e.1.2.2 = false := by
  have hdoes : ∀ e ∈ log, (Tokens e.2.1 ∧ Disputes e.2.1) ∧
      e.1.2.2.Does governance e.1.1 e.1.2.1 e.2.1 e.2.2 := fun e he => by
    obtain ⟨hs, -, hrun⟩ := hr.mem (I := fun s => Tokens s ∧ Disputes s)
      ⟨tokens_deploy, disputes_deploy⟩
      (fun _ _ _ hs _ ht => ⟨(run_effect ht).tokens hs.1, (run_effect ht).disputes hs.1 hs.2⟩) he
    exact ⟨hs, run_does hrun⟩
  constructor
  · intro h e he
    obtain ⟨-, hmoves⟩ := hdoes e he
    have hkeeps := h e he
    obtain ⟨⟨view, msg, call⟩, s, t⟩ := e
    cases call with
    | assignAsset n c =>
      by_contra hheld
      obtain ⟨-, ⟨_, _, hcall⟩ | ⟨_, hcall⟩⟩ :=
        hkeeps n ((Bool.not_eq_false _).mp hheld) hmoves.2.2.2.custody_ne
      · cases hcall
      · cases hcall
    | _ => rfl
  · intro h e he n hheld hmoved
    obtain ⟨⟨ht, hs⟩, hmoves⟩ := hdoes e he
    exact (hmoves.moved hmoved).keepsHold ht hs hheld (h e he)

theorem dispute_hold_sample : ∃ log s, (machine 0x60).Run (fun _ _ => True) deploy log s ∧
    s.disputedAssets 0xA55E7 = true ∧ s.custodian 1 = 0xCA401 ∧ ∀ e ∈ log, KeepsHold 0x60 e := by
  let calls := [sampleCall 0xA11CE (.registerAsset 0xA55E7 0xB0B 0xC1 0x3D),
    sampleCall 0xA11CE (.activateAsset 1),
    sampleCall 0xA0D (.raiseDispute 1 0xE1 "origin unclear"),
    sampleCall 0x60 (.governanceForceTransfer 1 0xCA401 "recovered")]
  obtain ⟨⟨log, s⟩, hexec, hheld, hcustodian, hassigns⟩ : ∃ r,
      (machine 0x60).exec (fun _ _ => True) calls [] deploy = some r ∧
        r.2.disputedAssets 0xA55E7 = true ∧ r.2.custodian 1 = 0xCA401 ∧
          ∀ e ∈ r.1, assignsDisputed e.2.1 e.1.2.2 = false :=
    ⟨_, rfl, rfl, rfl, by decide⟩
  have hrun := Machine.exec_run .init hexec
  exact ⟨log, s, hrun, hheld, hcustodian, (dispute_hold hrun).mpr hassigns⟩

/-- An asset manager reassigns a disputed asset. -/
theorem not_disputeHold : ∃ log s, (machine 0x60).Run (fun _ _ => True) deploy log s ∧
    ∃ e ∈ log, ¬ KeepsHold 0x60 e := by
  obtain ⟨⟨log, s⟩, hexec, e, he, hheld, hmoved, hsender⟩ : ∃ r,
      (machine 0x60).exec (fun _ _ => True)
        [sampleCall 0xA11CE (.registerAsset 0xA55E7 0xB0B 0xC1 0x3D),
          sampleCall 0xA0D (.raiseDispute 1 0xE1 "origin unclear"),
          sampleCall 0xA11CE (.assignAsset 1 0xCA401)] [] deploy = some r ∧
        ∃ e ∈ r.1, e.2.1.disputedAssets (e.2.1.digest 1) = true ∧
          e.2.2.custody 1 ≠ e.2.1.custody 1 ∧ e.1.2.1.sender ≠ 0x60 :=
    ⟨_, rfl, _, .tail _ (.tail _ (.head _)), by decide, by decide, by decide⟩
  exact ⟨log, s, Machine.exec_run .init hexec, e, he, fun hkeeps =>
    hsender (hkeeps 1 hheld hmoved).1⟩

/-! ### The pause -/

/-- `storeAuditReportHash` has no pause check; it takes an auditor, a hash and a free id. -/
def storesReport (view : View) (msg : Msg) (s : SampraanAssetRegistry) (call : Call) : Prop :=
  ∃ reportHash, call = .storeAuditReportHash reportHash ∧
    view.roles auditorRole msg.sender = true ∧ reportHash ≠ 0 ∧ s.auditReportCount + 1 < 2 ^ 256

theorem Call.Does.paused {call : Call} (h : call.Does governance view msg s t)
    (hpaused : s.paused = true) (hsender : msg.sender ≠ governance) :
    ∃ reportHash, call = .storeAuditReportHash reportHash := by
  have hmanaged : ¬ Managed view msg s := fun h => by
    have hrunning := h.running
    rw [hpaused] at hrunning
    cases hrunning
  have hrunning : ¬ s.paused = false := by simp [hpaused]
  cases call with
  | registerAsset d c cl m => exact absurd h.1 hmanaged
  | assignAsset m c => exact absurd h.1 hmanaged
  | transferCustody m c => exact absurd h.1 hmanaged
  | activateAsset m => exact absurd h.1 hmanaged
  | suspendAsset m => exact absurd h.1 hmanaged
  | restoreAsset m => exact absurd h.1 hmanaged
  | revokeAsset m => exact absurd h.1 hmanaged
  | flagAnomaly target m reason => exact absurd h.2.1 hrunning
  | raiseDispute m evidenceHash reason => exact absurd h.2.1 hrunning
  | resolveDispute m upheld reason => exact absurd h.2.1 hrunning
  | storeAuditReportHash reportHash => exact ⟨reportHash, rfl⟩
  | governancePause => exact absurd h.1 hsender
  | governanceUnpause => exact absurd h.1 hsender
  | governanceBurnNFT m reason => exact absurd h.1 hsender
  | governanceForceTransfer m c reason => exact absurd h.1 hsender
  | _ => exact h.elim

theorem StoresReport.ne (h : StoresReport s t) : t ≠ s := by
  rintro rfl
  have hcount := h.auditReportCount
  omega

theorem storeAuditReportHash_commits {reportHash : Bytes32}
    (hrole : view.roles auditorRole msg.sender = true) (hhash : reportHash ≠ 0)
    (hfree : s.auditReportCount + 1 < 2 ^ 256) :
    ∃ t, storeAuditReportHash view msg reportHash s = .ok t :=
  ⟨_, revertIf_bind.mpr ⟨not_not.mpr hrole, revertIf_bind.mpr ⟨hhash,
    checkedAdd_bind.mpr ⟨hfree, rfl⟩⟩⟩⟩

theorem pause_total {call : Call} (hpaused : s.paused = true) (hsender : msg.sender ≠ governance) :
    (machine governance).after (view, msg, call) s = s ↔ ¬ storesReport view msg s call := by
  constructor
  · rintro hsame ⟨reportHash, rfl, hrole, hhash, hfree⟩
    obtain ⟨t, ht⟩ := storeAuditReportHash_commits hrole hhash hfree
    have hafter : (machine governance).after (view, msg, .storeAuditReportHash reportHash) s = t := by
      simp [Machine.after, machine, run, ht]
    exact (storeAuditReportHash_ok ht).2.ne (hafter.symm.trans hsame)
  · intro hstores
    refine Machine.after_eq.resolve_right fun hrun => hstores ?_
    obtain ⟨reportHash, rfl⟩ := (run_does hrun).paused hpaused hsender
    obtain ⟨hrole, hhash, hfree⟩ : view.roles auditorRole msg.sender = true ∧ reportHash ≠ 0 ∧
        s.auditReportCount + 1 < 2 ^ 256 := by
      have hcommits : storeAuditReportHash view msg reportHash s = .ok _ := hrun
      simp only [storeAuditReportHash, revertIf_bind, checkedAdd_bind, not_not] at hcommits
      exact ⟨hcommits.1, hcommits.2.1, hcommits.2.2.1⟩
    exact ⟨reportHash, rfl, hrole, hhash, hfree⟩

def pausedCalls : List (View × Msg × Call) :=
  [sampleCall 0xA11CE (.registerAsset 0xA55E7 0xB0B 0xC1 0x3D), sampleCall 0x60 .governancePause]

theorem pause_total_sample : ∃ log s, (machine 0x60).exec (fun _ _ => True) pausedCalls [] deploy =
    some (log, s) ∧ s.paused = true ∧
      (machine 0x60).after (sampleCall 0xA11CE (.assignAsset 1 0xCA401)) s = s := by
  refine ⟨_, _, rfl, rfl, (pause_total rfl (by decide)).mpr ?_⟩
  rintro ⟨_, hcall, -⟩
  cases hcall

/-- An auditor stores a report in a paused registry. -/
theorem not_pauseTotal : ¬ ∀ s view msg call, (machine 0x60).Reachable deploy s →
    s.paused = true → msg.sender ≠ 0x60 → (machine 0x60).after (view, msg, call) s = s := by
  intro htotal
  obtain ⟨⟨log, s⟩, hexec, hpaused, hcount⟩ : ∃ r, (machine 0x60).exec (fun _ _ => True)
      pausedCalls [] deploy = some r ∧ r.2.paused = true ∧
        ((machine 0x60).after (sampleCall 0xA0D (.storeAuditReportHash 0x4E)) r.2).auditReportCount ≠
          r.2.auditReportCount := ⟨_, rfl, rfl, by decide⟩
  refine hcount (congrArg auditReportCount (htotal s sampleView
    { sender := 0xA0D, timestamp := 1700000000 } (.storeAuditReportHash 0x4E) ?_ hpaused ?_))
  · exact (Machine.exec_run .init hexec).reachable
  · decide

end Sampraan.Contracts.SampraanAssetRegistry
