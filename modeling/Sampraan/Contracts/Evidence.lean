import Sampraan.Contracts.Disputes
import Sampraan.Contracts.IdentityLifecycle
import Sampraan.Library.Numbered

/-! The stores of evidence of the two registries only grow. -/

namespace Sampraan.Contracts

open Library

/-! ### The asset registry -/

namespace SampraanAssetRegistry

variable {governance : Address} {s t u : SampraanAssetRegistry}
  {C : View × Msg × Call → SampraanAssetRegistry → Prop}
  {log : List ((View × Msg × Call) × SampraanAssetRegistry × SampraanAssetRegistry)}

/-- What a dispute says when it is raised. -/
def grounds (dispute : Dispute) : ℕ × Address × Bytes32 × String × ℕ :=
  (dispute.tokenId, dispute.raisedBy, dispute.evidenceHash, dispute.reason, dispute.raisedAt)

/-- What its resolution sets. -/
def resolution (dispute : Dispute) : Bool × Bool × String × ℕ :=
  (dispute.isOpen, dispute.upheld, dispute.resolutionReason, dispute.resolvedAt)

structure EvidenceExtends (s t : SampraanAssetRegistry) : Prop where
  anomalies : Extended s.anomalies s.anomalyCount t.anomalies t.anomalyCount
  reports : Extended s.auditReports s.auditReportCount t.auditReports t.auditReportCount
  disputes : Extended (grounds ∘ s.disputes) s.disputeCount (grounds ∘ t.disputes) t.disputeCount
  custody : ∀ n, s.custodyHistory n <+: t.custodyHistory n

theorem EvidenceExtends.refl (s : SampraanAssetRegistry) : EvidenceExtends s s where
  anomalies := .refl _ _
  reports := .refl _ _
  disputes := .refl _ _
  custody _ := List.prefix_refl _

theorem EvidenceExtends.trans (h : EvidenceExtends s t) (h' : EvidenceExtends t u) :
    EvidenceExtends s u where
  anomalies := h.anomalies.trans h'.anomalies
  reports := h.reports.trans h'.reports
  disputes := h.disputes.trans h'.disputes
  custody n := (h.custody n).trans (h'.custody n)

theorem SameAnomalies.extended (h : SameAnomalies s t) :
    Extended s.anomalies s.anomalyCount t.anomalies t.anomalyCount := by
  rw [h.anomalies, h.anomalyCount]
  exact .refl _ _

theorem SameReports.extended (h : SameReports s t) :
    Extended s.auditReports s.auditReportCount t.auditReports t.auditReportCount := by
  rw [h.auditReports, h.auditReportCount]
  exact .refl _ _

theorem SameDisputes.extended (h : SameDisputes s t) : Extended (grounds ∘ s.disputes)
    s.disputeCount (grounds ∘ t.disputes) t.disputeCount := by
  rw [h.disputes, h.disputeCount]
  exact .refl _ _

theorem SameEvidence.extends (h : SameEvidence s t)
    (hcustody : ∀ n, s.custodyHistory n <+: t.custodyHistory n) : EvidenceExtends s t :=
  ⟨h.toSameAnomalies.extended, h.toSameReports.extended, h.toSameDisputes.extended, hcustody⟩

theorem SameCustody.prefix (h : SameCustody s t) (n : ℕ) :
    s.custodyHistory n <+: t.custodyHistory n := by
  rw [h.custodyHistory]

theorem prefix_of_push {n : ℕ} {record : CustodyRecord}
    (h : t.custodyHistory = Function.update s.custodyHistory n (s.custodyHistory n ++ [record]))
    (m : ℕ) : s.custodyHistory m <+: t.custodyHistory m := by
  rw [h]
  by_cases hm : m = n
  · subst hm
    rw [Function.update_self]
    exact List.prefix_append _ _
  · rw [Function.update_of_ne hm]

theorem Effect.evidence (h : Effect s t) : EvidenceExtends s t := by
  cases h with
  | register d c h =>
    obtain ⟨record, hhistory, -⟩ := h.custodyHistory
    exact h.toSameEvidence.extends (prefix_of_push hhistory)
  | move n c h =>
    obtain ⟨record, hhistory, -⟩ := h.custodyHistory
    exact h.toSameEvidence.extends (prefix_of_push hhistory)
  | status n new h => exact h.toSameEvidence.extends fun n => by rw [h.custodyHistory]
  | burn n h => exact h.toSameEvidence.extends fun n => by rw [h.custodyHistory]
  | anomaly h =>
    obtain ⟨anomaly, hanomalies, -⟩ := h.anomalies
    refine ⟨?_, h.toSameReports.extended, h.toSameDisputes.extended, h.toSameCustody.prefix⟩
    rw [hanomalies, h.anomalyCount]
    exact .push _ _ _
  | report h =>
    obtain ⟨report, hreports, -⟩ := h.auditReports
    refine ⟨h.toSameAnomalies.extended, ?_, h.toSameDisputes.extended, h.toSameCustody.prefix⟩
    rw [hreports, h.auditReportCount]
    exact .push _ _ _
  | raise n h =>
    obtain ⟨dispute, hdisputes, -⟩ := h.disputes
    refine ⟨h.toSameAnomalies.extended, h.toSameReports.extended, ?_, h.toSameCustody.prefix⟩
    rw [hdisputes, h.disputeCount, Function.comp_update]
    exact .push _ _ _
  | resolve id upheld h =>
    obtain ⟨reason, time, hdisputes⟩ := h.disputes
    refine ⟨h.toSameAnomalies.extended, h.toSameReports.extended, ?_, h.toSameCustody.prefix⟩
    have hgrounds : grounds ∘ t.disputes = grounds ∘ s.disputes := by
      rw [hdisputes, Function.comp_update]
      exact Function.update_eq_self id _
    rw [hgrounds, h.disputeCount]
    exact .refl _ _
  | pause h => exact h.toSameEvidence.extends h.toSameCustody.prefix

/-! ### Numbers -/

structure EvidenceNumbered (s : SampraanAssetRegistry) : Prop where
  anomalies : Numbered (fun anomaly => anomaly.reason ≠ "") s.anomalies s.anomalyCount
  reports : Numbered (fun report => report.reportHash ≠ 0) s.auditReports s.auditReportCount
  disputes : Numbered (fun dispute => dispute.reason ≠ "") s.disputes s.disputeCount

theorem evidenceNumbered_deploy : EvidenceNumbered deploy where
  anomalies := .empty (by simp)
  reports := .empty (by simp)
  disputes := .empty (by simp)

theorem SameAnomalies.numbered (h : SameAnomalies s t) (hs : EvidenceNumbered s) :
    Numbered (fun anomaly => anomaly.reason ≠ "") t.anomalies t.anomalyCount := by
  rw [h.anomalies, h.anomalyCount]
  exact hs.anomalies

theorem SameReports.numbered (h : SameReports s t) (hs : EvidenceNumbered s) :
    Numbered (fun report => report.reportHash ≠ 0) t.auditReports t.auditReportCount := by
  rw [h.auditReports, h.auditReportCount]
  exact hs.reports

theorem SameDisputes.numbered (h : SameDisputes s t) (hs : EvidenceNumbered s) :
    Numbered (fun dispute => dispute.reason ≠ "") t.disputes t.disputeCount := by
  rw [h.disputes, h.disputeCount]
  exact hs.disputes

theorem EvidenceNumbered.of_same (hs : EvidenceNumbered s) (h : SameEvidence s t) :
    EvidenceNumbered t :=
  ⟨h.toSameAnomalies.numbered hs, h.toSameReports.numbered hs, h.toSameDisputes.numbered hs⟩

theorem Effect.numbered (h : Effect s t) (hs : EvidenceNumbered s) : EvidenceNumbered t := by
  cases h with
  | register d c h => exact hs.of_same h.toSameEvidence
  | move n c h => exact hs.of_same h.toSameEvidence
  | status n new h => exact hs.of_same h.toSameEvidence
  | burn n h => exact hs.of_same h.toSameEvidence
  | anomaly h =>
    obtain ⟨anomaly, hanomalies, hreason⟩ := h.anomalies
    refine ⟨?_, h.toSameReports.numbered hs, h.toSameDisputes.numbered hs⟩
    rw [hanomalies, h.anomalyCount]
    exact hs.anomalies.push hreason
  | report h =>
    obtain ⟨report, hreports, hhash⟩ := h.auditReports
    refine ⟨h.toSameAnomalies.numbered hs, ?_, h.toSameDisputes.numbered hs⟩
    rw [hreports, h.auditReportCount]
    exact hs.reports.push hhash
  | raise n h =>
    obtain ⟨dispute, hdisputes, -, -, -, hreason⟩ := h.disputes
    refine ⟨h.toSameAnomalies.numbered hs, h.toSameReports.numbered hs, ?_⟩
    rw [hdisputes, h.disputeCount]
    exact hs.disputes.push hreason
  | resolve id upheld h =>
    obtain ⟨reason, time, hdisputes⟩ := h.disputes
    refine ⟨h.toSameAnomalies.numbered hs, h.toSameReports.numbered hs, fun id' => ?_⟩
    rw [h.disputeCount, ← hs.disputes id']
    by_cases hid : id' = id
    · rw [hdisputes, hid, Function.update_self]
    · rw [h.at_other hid]
  | pause h => exact hs.of_same h.toSameEvidence

/-! ### Resolutions -/

def changesResolution (id : ℕ)
    (e : (View × Msg × Call) × SampraanAssetRegistry × SampraanAssetRegistry) : Bool :=
  id ≤ e.2.1.disputeCount ∧ resolution (e.2.2.disputes id) ≠ resolution (e.2.1.disputes id)

def resolutionCount (id : ℕ) (s : SampraanAssetRegistry) : ℕ :=
  if id ≤ s.disputeCount ∧ (s.disputes id).isOpen = false then 1 else 0

theorem SameDisputes.resolutionCount (h : SameDisputes s t) (k : View × Msg × Call) (id : ℕ) :
    SampraanAssetRegistry.resolutionCount id t = SampraanAssetRegistry.resolutionCount id s +
      if changesResolution id (k, s, t) then 1 else 0 := by
  simp [SampraanAssetRegistry.resolutionCount, changesResolution, h.disputes, h.disputeCount]

theorem RaisesDispute.resolutionCount {n : ℕ} (h : RaisesDispute n s t) (k : View × Msg × Call)
    (id : ℕ) :
    SampraanAssetRegistry.resolutionCount id t = SampraanAssetRegistry.resolutionCount id s +
      if changesResolution id (k, s, t) then 1 else 0 := by
  simp only [SampraanAssetRegistry.resolutionCount, changesResolution, h.disputeCount]
  by_cases hid : id = s.disputeCount + 1
  · obtain ⟨dispute, hdisputes, -, hopen, -⟩ := h.disputes
    simp [hid, hdisputes, hopen]
  · have hle : id ≤ s.disputeCount + 1 ↔ id ≤ s.disputeCount := by omega
    simp [h.at_old hid, hle]

theorem ResolvesDispute.resolutionCount {id' : ℕ} {upheld : Bool}
    (h : ResolvesDispute id' upheld s t) (hs : Disputes s) (k : View × Msg × Call) (id : ℕ) :
    SampraanAssetRegistry.resolutionCount id t = SampraanAssetRegistry.resolutionCount id s +
      if changesResolution id (k, s, t) then 1 else 0 := by
  simp only [SampraanAssetRegistry.resolutionCount, changesResolution, h.disputeCount]
  by_cases hid : id = id'
  · have hle := (hs.allocated id' (.inl h.isOpen)).2
    have hchanged : resolution (t.disputes id') ≠ resolution (s.disputes id') := fun heq => by
      have hsame : (t.disputes id').isOpen = (s.disputes id').isOpen := congrArg Prod.fst heq
      rw [h.at_id.1, h.isOpen] at hsame
      cases hsame
    simp [hid, hle, h.at_id.1, h.isOpen, hchanged]
  · simp [h.at_other hid]

theorem Effect.resolutionCount (h : Effect s t) (hs : Disputes s) (k : View × Msg × Call)
    (id : ℕ) :
    SampraanAssetRegistry.resolutionCount id t = SampraanAssetRegistry.resolutionCount id s +
      if changesResolution id (k, s, t) then 1 else 0 := by
  obtain hsame | ⟨n, h⟩ | ⟨id', upheld, h⟩ := h.dispute_cases
  · exact hsame.resolutionCount k id
  · exact h.resolutionCount k id
  · exact h.resolutionCount hs k id

structure EvidenceKept
    (log : List ((View × Msg × Call) × SampraanAssetRegistry × SampraanAssetRegistry))
    (s t : SampraanAssetRegistry) : Prop where
  extended : EvidenceExtends s t
  numbered : EvidenceNumbered s
  tokens : ∀ n, s.status n ≠ .none ↔ 1 ≤ n ∧ n < s.nextTokenId
  resolved : ∀ id, 1 ≤ id → id ≤ s.disputeCount →
    log.countP (changesResolution id) = if (s.disputes id).isOpen then 0 else 1

theorem evidence_of_run {log' : List ((View × Msg × Call) × SampraanAssetRegistry ×
    SampraanAssetRegistry)} (hr : (machine governance).Run C deploy log s)
    (hr' : (machine governance).Run C s log' t) : EvidenceKept log s t where
  extended := hr'.monotone (I := fun _ => True) EvidenceExtends.refl (fun _ _ _ => .trans) trivial
    (fun _ _ _ _ _ _ => trivial) fun _ _ _ _ _ ht => (run_effect ht).evidence
  numbered := hr.invariant evidenceNumbered_deploy fun _ _ _ hs _ ht => (run_effect ht).numbered hs
  tokens := (tokens_of_run hr).registered
  resolved id hpos hle := by
    have hcount := hr.countP (I := fun s => Tokens s ∧ Disputes s) (p := changesResolution id)
      (m := resolutionCount id) ⟨tokens_deploy, disputes_deploy⟩
      (if_neg fun h => by have hzero : id ≤ 0 := h.1; omega)
      (fun _ _ _ hs _ ht => ⟨(run_effect ht).tokens hs.1, (run_effect ht).disputes hs.1 hs.2⟩)
      fun k _ _ hs _ ht => (run_effect ht).resolutionCount hs.2 k id
    rw [hcount, resolutionCount]
    cases (s.disputes id).isOpen with
    | true => simp
    | false => simp [hle]

end SampraanAssetRegistry

/-! ### The identity registry -/

namespace SampraanIdentityRegistry

variable {governance : Address} {roles : Roles} {sender wallet : Address}
  {s t u : SampraanIdentityRegistry} {C : Roles × Msg × Call → SampraanIdentityRegistry → Prop}
  {log : List ((Roles × Msg × Call) × SampraanIdentityRegistry × SampraanIdentityRegistry)}

structure EvidenceExtends (s t : SampraanIdentityRegistry) : Prop where
  lifecycle : ∀ wallet, s.lifecycle wallet <+: t.lifecycle wallet
  documents : ∀ wallet, Extended (s.didDocumentHash wallet) (s.didDocumentVersion wallet)
    (t.didDocumentHash wallet) (t.didDocumentVersion wallet)

theorem EvidenceExtends.refl (s : SampraanIdentityRegistry) : EvidenceExtends s s where
  lifecycle _ := List.prefix_refl _
  documents _ := .refl _ _

theorem EvidenceExtends.trans (h : EvidenceExtends s t) (h' : EvidenceExtends t u) :
    EvidenceExtends s u where
  lifecycle wallet := (h.lifecycle wallet).trans (h'.lifecycle wallet)
  documents wallet := (h.documents wallet).trans (h'.documents wallet)

theorem Keeps.lifecycle_prefix (h : Keeps wallet s t) {e : LifecycleEvent}
    (hlog : t.lifecycle wallet = s.lifecycle wallet ++ [e]) (w : Address) :
    s.lifecycle w <+: t.lifecycle w := by
  by_cases hw : w = wallet
  · rw [hw, hlog]
    exact List.prefix_append _ _
  · rw [h.lifecycle w hw]

theorem KeepsDocuments.extended (h : KeepsDocuments s t) (w : Address) :
    Extended (s.didDocumentHash w) (s.didDocumentVersion w) (t.didDocumentHash w)
      (t.didDocumentVersion w) := by
  rw [h.hash, h.version]
  exact .refl _ _

theorem Documents.extended {documentHash : Bytes32} (h : Documents wallet documentHash s t)
    (w : Address) :
    Extended (s.didDocumentHash w) (s.didDocumentVersion w) (t.didDocumentHash w)
      (t.didDocumentVersion w) := by
  rw [h.hash, h.version]
  by_cases hw : w = wallet
  · rw [hw, Function.update_self, Function.update_self]
    exact .push _ _ _
  · rw [Function.update_of_ne hw, Function.update_of_ne hw]
    exact .refl _ _

theorem Effect.evidence (h : Effect governance roles sender s t) : EvidenceExtends s t := by
  cases h with
  | register w didDigest h hadmin =>
    obtain ⟨e, hlog, -⟩ := h.log
    exact ⟨h.toKeeps.lifecycle_prefix hlog, h.toKeepsDocuments.extended⟩
  | move w newStatus h hmove =>
    obtain ⟨e, hlog, -⟩ := h.log
    exact ⟨h.toKeeps.lifecycle_prefix hlog, h.toKeepsDocuments.extended⟩
  | document w documentHash h hcaller =>
    obtain ⟨e, hlog, -⟩ := h.log
    exact ⟨h.toKeeps.lifecycle_prefix hlog, h.extended⟩

structure EvidenceKept (s t : SampraanIdentityRegistry) : Prop where
  extended : EvidenceExtends s t
  numbered : ∀ wallet, Numbered (fun documentHash => documentHash ≠ 0) (s.didDocumentHash wallet)
    (s.didDocumentVersion wallet)

theorem evidence_of_run {log' : List ((Roles × Msg × Call) × SampraanIdentityRegistry ×
    SampraanIdentityRegistry)} (hr : (machine governance).Run C deploy log s)
    (hr' : (machine governance).Run C s log' t) : EvidenceKept s t where
  extended := hr'.monotone (I := fun _ => True) EvidenceExtends.refl (fun _ _ _ => .trans) trivial
    (fun _ _ _ _ _ _ => trivial) fun _ _ _ _ _ ht => (run_effect ht).evidence
  numbered := (wellFormed_of_run hr).hashes

end SampraanIdentityRegistry

/-! ### Both -/

variable {governance : Address} {s t : SampraanAssetRegistry} {u v : SampraanIdentityRegistry}
  {log log' : List ((View × Msg × SampraanAssetRegistry.Call) × SampraanAssetRegistry ×
    SampraanAssetRegistry)}
  {events events' : List ((Roles × Msg × SampraanIdentityRegistry.Call) ×
    SampraanIdentityRegistry × SampraanIdentityRegistry)}

theorem evidence_append_only
    (hr : (SampraanAssetRegistry.machine governance).Run (fun _ _ => True) .deploy log s)
    (hr' : (SampraanAssetRegistry.machine governance).Run (fun _ _ => True) s log' t)
    (hi : (SampraanIdentityRegistry.machine governance).Run (fun _ _ => True) .deploy events u)
    (hi' : (SampraanIdentityRegistry.machine governance).Run (fun _ _ => True) u events' v) :
    SampraanAssetRegistry.EvidenceKept log s t ∧ SampraanIdentityRegistry.EvidenceKept u v :=
  ⟨SampraanAssetRegistry.evidence_of_run hr hr', SampraanIdentityRegistry.evidence_of_run hi hi'⟩

open SampraanAssetRegistry (sampleCall) in
theorem evidence_append_only_sample : ∃ log s t u v, t.owners 1 = 0 ∧
    v.status 0xB0B = .deactivated ∧ SampraanAssetRegistry.EvidenceKept log s t ∧
      SampraanIdentityRegistry.EvidenceKept u v := by
  obtain ⟨⟨log, s⟩, hs, ⟨log', t⟩, ht, hburned⟩ : ∃ r,
      (SampraanAssetRegistry.machine 0x60).exec (fun _ _ => True)
        [sampleCall 0xA11CE (.registerAsset 0xA55E7 0xB0B 0xC1 0x3D),
          sampleCall 0xA0D (.flagAnomaly 0xB0B 1 "odd log-in"),
          sampleCall 0xA0D (.raiseDispute 1 0xE1 "origin unclear"),
          sampleCall 0xAD (.resolveDispute 1 true "confirmed")] [] .deploy = some r ∧ ∃ r',
      (SampraanAssetRegistry.machine 0x60).exec (fun _ _ => True)
        [sampleCall 0x60 (.governanceForceTransfer 1 0xCA401 "recovered"),
          sampleCall 0x60 (.governanceBurnNFT 1 "compromised")] [] r.2 = some r' ∧
        r'.2.owners 1 = 0 := ⟨_, rfl, _, rfl, rfl⟩
  let roles : Roles := fun role account => decide (role = identityAdminRole ∧ account = 0xA11CE)
  let admin : Msg := { sender := 0xA11CE, timestamp := 1700000000 }
  obtain ⟨⟨events, u⟩, hu, ⟨events', v⟩, hv, hstatus⟩ : ∃ r,
      (SampraanIdentityRegistry.machine 0x60).exec (fun _ _ => True)
        [(roles, admin, .registerIdentity 0xB0B 0xD1D 0x9B),
          (roles, admin, .updateDidDocumentHashFor 0xB0B 0xD0C "first document")] [] .deploy =
        some r ∧ ∃ r', (SampraanIdentityRegistry.machine 0x60).exec (fun _ _ => True)
          [(roles, { admin with sender := 0x60 }, .governanceDeactivateIdentity 0xB0B "left")]
          [] r.2 = some r' ∧ r'.2.status 0xB0B = .deactivated := ⟨_, rfl, _, rfl, rfl⟩
  exact ⟨log, s, t, u, v, hburned, hstatus, evidence_append_only (Machine.exec_run .init hs)
    (Machine.exec_run .init ht) (Machine.exec_run .init hu) (Machine.exec_run .init hv)⟩

end Sampraan.Contracts
