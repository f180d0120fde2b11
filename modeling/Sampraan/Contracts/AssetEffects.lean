import Sampraan.Contracts.AssetRegistry

/-! What the committed calls of the asset registry do to its state. -/

namespace Sampraan.Contracts.SampraanAssetRegistry

/-! ### Parts of the state -/

structure SameCustody (s t : SampraanAssetRegistry) : Prop where
  owners : t.owners = s.owners
  assets : t.assets = s.assets
  assetIdToToken : t.assetIdToToken = s.assetIdToToken
  nextTokenId : t.nextTokenId = s.nextTokenId
  custodyHistory : t.custodyHistory = s.custodyHistory
  custodyHistoryLength : t.custodyHistoryLength = s.custodyHistoryLength

structure SameDisputes (s t : SampraanAssetRegistry) : Prop where
  disputes : t.disputes = s.disputes
  disputeCount : t.disputeCount = s.disputeCount
  disputedAssets : t.disputedAssets = s.disputedAssets
  openDisputeCount : t.openDisputeCount = s.openDisputeCount

structure SameAnomalies (s t : SampraanAssetRegistry) : Prop where
  anomalies : t.anomalies = s.anomalies
  anomalyCount : t.anomalyCount = s.anomalyCount

structure SameReports (s t : SampraanAssetRegistry) : Prop where
  auditReports : t.auditReports = s.auditReports
  auditReportCount : t.auditReportCount = s.auditReportCount

structure SameEvidence (s t : SampraanAssetRegistry) : Prop
    extends SameDisputes s t, SameAnomalies s t, SameReports s t

/-! ### Effects -/

structure Registers (assetIdDigest : Bytes32) (custodian : Address) (s t : SampraanAssetRegistry) :
    Prop extends SameEvidence s t where
  digest_ne : assetIdDigest ≠ 0
  custodian_ne : custodian ≠ 0
  fresh : s.assetIdToToken assetIdDigest = 0
  unowned : s.owners s.nextTokenId = 0
  nextTokenId : t.nextTokenId = s.nextTokenId + 1
  assets : ∃ asset, t.assets = Function.update s.assets s.nextTokenId asset ∧
    asset.assetIdDigest = assetIdDigest ∧ asset.status = .pending ∧ asset.custodian = custodian
  assetIdToToken :
    t.assetIdToToken = Function.update s.assetIdToToken assetIdDigest s.nextTokenId
  owners : t.owners = Function.update s.owners s.nextTokenId custodian
  custodyHistory : ∃ record, t.custodyHistory = Function.update s.custodyHistory s.nextTokenId
    (s.custodyHistory s.nextTokenId ++ [record]) ∧ record.fromCustodian = 0 ∧
      record.toCustodian = custodian
  custodyHistoryLength :
    t.custodyHistoryLength = Function.update s.custodyHistoryLength s.nextTokenId 1

structure MovesCustody (tokenId : ℕ) (custodian : Address) (s t : SampraanAssetRegistry) :
    Prop extends SameEvidence s t where
  registered : (s.assets tokenId).status ≠ .none
  custodian_ne : custodian ≠ 0
  owned : s.owners tokenId ≠ 0
  nextTokenId : t.nextTokenId = s.nextTokenId
  assets : ∃ time, t.assets = Function.update s.assets tokenId
    { s.assets tokenId with custodian := custodian, statusChangedAt := time }
  assetIdToToken : t.assetIdToToken = s.assetIdToToken
  owners : t.owners = Function.update s.owners tokenId custodian
  custodyHistory : ∃ record, t.custodyHistory = Function.update s.custodyHistory tokenId
    (s.custodyHistory tokenId ++ [record]) ∧
      record.fromCustodian = (s.assets tokenId).custodian ∧ record.toCustodian = custodian
  custodyHistoryLength : t.custodyHistoryLength =
    Function.update s.custodyHistoryLength tokenId (s.custodyHistoryLength tokenId + 1)

structure SetsStatus (tokenId : ℕ) (newStatus : AssetStatus) (s t : SampraanAssetRegistry) :
    Prop extends SameEvidence s t where
  nextTokenId : t.nextTokenId = s.nextTokenId
  assets : ∃ time, t.assets = Function.update s.assets tokenId
    { s.assets tokenId with status := newStatus, statusChangedAt := time }
  assetIdToToken : t.assetIdToToken = s.assetIdToToken
  custodyHistory : t.custodyHistory = s.custodyHistory
  custodyHistoryLength : t.custodyHistoryLength = s.custodyHistoryLength

/-- The changes that `_changeStatus` lets through. -/
inductive StatusChange : AssetStatus → AssetStatus → Prop
  | activate : StatusChange .pending .active
  | suspend : StatusChange .active .suspended
  | revokeActive : StatusChange .active .revoked
  | restore : StatusChange .suspended .active
  | revokeSuspended : StatusChange .suspended .revoked

structure ChangesStatus (tokenId : ℕ) (newStatus : AssetStatus) (s t : SampraanAssetRegistry) :
    Prop extends SetsStatus tokenId newStatus s t where
  change : StatusChange (s.assets tokenId).status newStatus
  owners : t.owners = s.owners

structure Burns (tokenId : ℕ) (s t : SampraanAssetRegistry) : Prop
    extends SetsStatus tokenId .revoked s t where
  live : (s.assets tokenId).status ≠ .none ∧ (s.assets tokenId).status ≠ .revoked
  owned : s.owners tokenId ≠ 0
  owners : t.owners = Function.update s.owners tokenId 0

structure FlagsAnomaly (s t : SampraanAssetRegistry) : Prop
    extends SameCustody s t, SameDisputes s t, SameReports s t where
  anomalies : ∃ anomaly, t.anomalies = Function.update s.anomalies (s.anomalyCount + 1) anomaly ∧
    anomaly.reason ≠ ""
  anomalyCount : t.anomalyCount = s.anomalyCount + 1

structure StoresReport (s t : SampraanAssetRegistry) : Prop
    extends SameCustody s t, SameDisputes s t, SameAnomalies s t where
  auditReports : ∃ report,
    t.auditReports = Function.update s.auditReports (s.auditReportCount + 1) report ∧
      report.reportHash ≠ 0
  auditReportCount : t.auditReportCount = s.auditReportCount + 1

structure RaisesDispute (tokenId : ℕ) (s t : SampraanAssetRegistry) : Prop
    extends SameCustody s t, SameAnomalies s t, SameReports s t where
  registered : (s.assets tokenId).status ≠ .none
  undisputed : s.disputedAssets (s.assets tokenId).assetIdDigest = false
  disputes : ∃ dispute, t.disputes = Function.update s.disputes (s.disputeCount + 1) dispute ∧
    dispute.tokenId = tokenId ∧ dispute.isOpen = true ∧ dispute.upheld = false ∧
      dispute.reason ≠ ""
  disputeCount : t.disputeCount = s.disputeCount + 1
  disputedAssets : t.disputedAssets =
    Function.update s.disputedAssets (s.assets tokenId).assetIdDigest true
  openDisputeCount : t.openDisputeCount = s.openDisputeCount + 1

structure ResolvesDispute (disputeId : ℕ) (upheld : Bool) (s t : SampraanAssetRegistry) : Prop
    extends SameCustody s t, SameAnomalies s t, SameReports s t where
  isOpen : (s.disputes disputeId).isOpen = true
  disputes : ∃ reason time, t.disputes = Function.update s.disputes disputeId
    { s.disputes disputeId with
      isOpen := false, upheld := upheld, resolutionReason := reason, resolvedAt := time }
  disputeCount : t.disputeCount = s.disputeCount
  disputedAssets : t.disputedAssets = if upheld then s.disputedAssets else
    Function.update s.disputedAssets
      (s.assets (s.disputes disputeId).tokenId).assetIdDigest false
  openDisputeCount : t.openDisputeCount + (if upheld then 0 else 1) = s.openDisputeCount

structure SetsPause (s t : SampraanAssetRegistry) : Prop
    extends SameCustody s t, SameEvidence s t

/-! ### Spec lemmas -/

section

variable {governance : Address} {view : View} {msg : Msg} {tokenId : ℕ}
  {s t : SampraanAssetRegistry}

theorem mint_ok {newOwner : Address} (h : mint newOwner tokenId s = .ok t) :
    newOwner ≠ 0 ∧ s.owners tokenId = 0 ∧ ∃ balances,
      t = { s with balances := balances, owners := Function.update s.owners tokenId newOwner } := by
  obtain ⟨hne, h⟩ := revertIf_bind.mp h
  obtain ⟨howner, h⟩ := revertIf_bind.mp h
  exact ⟨hne, not_not.mp howner, _, (pure_eq_ok.mp h).symm⟩

theorem burn_ok (h : burn tokenId s = .ok t) : s.owners tokenId ≠ 0 ∧ ∃ balances,
    t = { s with balances := balances, owners := Function.update s.owners tokenId 0 } := by
  obtain ⟨howner, h⟩ := revertIf_bind.mp h
  exact ⟨howner, _, (pure_eq_ok.mp h).symm⟩

theorem transfer_ok {fromOwner newOwner : Address}
    (h : transfer fromOwner newOwner tokenId s = .ok t) : s.owners tokenId ≠ 0 ∧ ∃ balances,
      t = { s with balances := balances, owners := Function.update s.owners tokenId newOwner } := by
  obtain ⟨-, h⟩ := revertIf_bind.mp h
  obtain ⟨howner, h⟩ := revertIf_bind.mp h
  obtain ⟨-, h⟩ := revertIf_bind.mp h
  exact ⟨howner, _, (pure_eq_ok.mp h).symm⟩

structure Managed (view : View) (msg : Msg) (s : SampraanAssetRegistry) : Prop where
  role : view.roles assetManagerRole msg.sender = true
  running : s.paused = false

theorem registerAsset_ok {assetIdDigest classificationDigest metadataDigest : Bytes32}
    {custodian : Address}
    (h : registerAsset view msg assetIdDigest custodian classificationDigest metadataDigest s =
      .ok t) :
    Managed view msg s ∧ view.isActive custodian = true ∧
      Registers assetIdDigest custodian s t := by
  simp only [registerAsset, onlyAssetManager, bind_assoc, revertIf_bind, checkedAdd_bind,
    not_not] at h
  obtain ⟨hrunning, hrole, hdigest, hcustodian, hfresh, hactive, -, h⟩ := h
  obtain ⟨s', hmint, h⟩ := bind_eq_ok.mp h
  obtain ⟨-, howner, balances, rfl⟩ := mint_ok hmint
  rw [pure_eq_ok] at h
  subst h
  refine ⟨⟨hrole, by simpa using hrunning⟩, hactive, ?_⟩
  constructor
  case toSameEvidence => exact ⟨⟨rfl, rfl, rfl, rfl⟩, ⟨rfl, rfl⟩, ⟨rfl, rfl⟩⟩
  case digest_ne => exact hdigest
  case custodian_ne => exact hcustodian
  case fresh => exact hfresh
  case unowned => exact howner
  case assets => exact ⟨_, rfl, rfl, rfl, rfl⟩
  case custodyHistory => exact ⟨_, rfl, rfl, rfl⟩
  all_goals rfl

theorem movesCustody_of_writes {custodian : Address} {time : ℕ} {record : CustodyRecord}
    {balances : Address → ℕ} (hnone : (s.assets tokenId).status ≠ .none) (hcustodian : custodian ≠ 0)
    (howned : s.owners tokenId ≠ 0) (hfrom : record.fromCustodian = (s.assets tokenId).custodian)
    (hto : record.toCustodian = custodian) : MovesCustody tokenId custodian s
      { (((s.setAsset tokenId { s.assets tokenId with
            custodian := custodian, statusChangedAt := time }).pushCustody tokenId
              record).setCustodyHistoryLength tokenId (s.custodyHistoryLength tokenId + 1)) with
        balances := balances
        owners := Function.update s.owners tokenId custodian } := by
  constructor
  case toSameEvidence => exact ⟨⟨rfl, rfl, rfl, rfl⟩, ⟨rfl, rfl⟩, ⟨rfl, rfl⟩⟩
  case registered => exact hnone
  case custodian_ne => exact hcustodian
  case owned => exact howned
  case assets => exact ⟨time, rfl⟩
  case custodyHistory => exact ⟨record, rfl, hfrom, hto⟩
  all_goals rfl

theorem assignAsset_ok {custodian : Address} (h : assignAsset view msg tokenId custodian s = .ok t) :
    Managed view msg s ∧ view.isActive custodian = true ∧
      ((s.assets tokenId).status = .pending ∨ (s.assets tokenId).status = .active) ∧
        MovesCustody tokenId custodian s t := by
  simp only [assignAsset, onlyAuthorizedOperator, ownerOf, bind_assoc, revertIf_bind,
    checkedAdd_bind, pure_bind, not_not, not_or] at h
  obtain ⟨hrunning, hrole, hnone, hcustodian, -, hactive, hbarred, -, howned, h⟩ := h
  refine ⟨⟨hrole, by simpa using hrunning⟩, hactive, ?_, ?_⟩
  · cases hstatus : (s.assets tokenId).status <;> simp_all
  obtain ⟨balances, ht⟩ : ∃ balances, t =
      { (((s.setAsset tokenId { s.assets tokenId with custodian := custodian }).pushCustody tokenId
          { fromCustodian := (s.assets tokenId).custodian
            toCustodian := custodian
            operator := msg.sender
            atTime := uint64 msg.timestamp }).setCustodyHistoryLength tokenId
              (s.custodyHistoryLength tokenId + 1)) with
        balances := balances
        owners := Function.update s.owners tokenId custodian } := by
    split at h
    · exact (transfer_ok h).2
    case isFalse hsame =>
      rw [not_not] at hsame
      rw [pure_eq_ok] at h
      refine ⟨s.balances, h.symm.trans ?_⟩
      rw [← hsame]
      simp [setCustodyHistoryLength, pushCustody, setAsset]
  subst ht
  -- an assignment leaves the time stamp as it is
  exact movesCustody_of_writes hnone hcustodian howned rfl rfl

theorem transferCustody_ok {toCustodian : Address}
    (h : transferCustody view msg tokenId toCustodian s = .ok t) :
    Managed view msg s ∧ view.isActive toCustodian = true ∧
      s.disputedAssets (s.assets tokenId).assetIdDigest = false ∧
        (s.assets tokenId).status = .active ∧ MovesCustody tokenId toCustodian s t := by
  simp only [transferCustody, onlyAuthorizedOperator, bind_assoc, revertIf_bind, checkedAdd_bind,
    not_not] at h
  obtain ⟨hrunning, hrole, hnone, hstatus, hdisputed, hcustodian, -, -, hactive, -, h⟩ := h
  obtain ⟨howned, balances, rfl⟩ := transfer_ok h
  exact ⟨⟨hrole, by simpa using hrunning⟩, hactive, by simpa using hdisputed, hstatus,
    movesCustody_of_writes hnone hcustodian howned rfl rfl⟩

theorem governanceForceTransfer_ok {toCustodian : Address} {reason : String}
    (h : governanceForceTransfer governance msg tokenId toCustodian reason s = .ok t) :
    msg.sender = governance ∧ MovesCustody tokenId toCustodian s t := by
  simp only [governanceForceTransfer, revertIf_bind, checkedAdd_bind, not_not] at h
  obtain ⟨hsender, -, hnone, hcustodian, -, -, h⟩ := h
  obtain ⟨howned, balances, rfl⟩ := transfer_ok h
  exact ⟨hsender, movesCustody_of_writes hnone hcustodian howned rfl rfl⟩

theorem governanceBurnNFT_ok {reason : String}
    (h : governanceBurnNFT governance msg tokenId reason s = .ok t) :
    msg.sender = governance ∧ Burns tokenId s t := by
  simp only [governanceBurnNFT, revertIf_bind, not_not] at h
  obtain ⟨hsender, -, hnone, hrevoked, h⟩ := h
  obtain ⟨howned, balances, rfl⟩ := burn_ok h
  refine ⟨hsender, ?_⟩
  constructor
  case toSetsStatus =>
    exact ⟨⟨⟨rfl, rfl, rfl, rfl⟩, ⟨rfl, rfl⟩, ⟨rfl, rfl⟩⟩, rfl, ⟨_, rfl⟩, rfl, rfl, rfl⟩
  case live => exact ⟨hnone, hrevoked⟩
  case owned => exact howned
  case owners => rfl

theorem statusChange_of_guards {old new : AssetStatus} (hnone : old ≠ .none) (hsame : old ≠ new)
    (hrevoked : old ≠ .revoked)
    (hguard : ¬ ((old = .pending ∧ new ≠ .active) ∨
      (old = .active ∧ new ≠ .suspended ∧ new ≠ .revoked) ∨
      (old = .suspended ∧ new ≠ .active ∧ new ≠ .revoked))) : StatusChange old new := by
  cases old <;> cases new <;> first | constructor | simp_all

theorem changeStatusAs_ok {newStatus : AssetStatus}
    (h : changeStatusAs view msg newStatus tokenId s = .ok t) :
    Managed view msg s ∧ ChangesStatus tokenId newStatus s t := by
  simp only [changeStatusAs, onlyAuthorizedOperator, bind_assoc, revertIf_bind, changeStatus,
    pure_eq_ok] at h
  obtain ⟨hrunning, hrole, hnone, hsame, hrevoked, hguard, rfl⟩ := h
  refine ⟨⟨not_not.mp hrole, by simpa using hrunning⟩, ?_⟩
  constructor
  case toSetsStatus =>
    exact ⟨⟨⟨rfl, rfl, rfl, rfl⟩, ⟨rfl, rfl⟩, ⟨rfl, rfl⟩⟩, rfl, ⟨_, rfl⟩, rfl, rfl, rfl⟩
  case change => exact statusChange_of_guards hnone hsame hrevoked hguard
  case owners => rfl

theorem flagAnomaly_ok {target : Address} {reason : String}
    (h : flagAnomaly view msg target tokenId reason s = .ok t) :
    view.roles auditorRole msg.sender = true ∧ s.paused = false ∧ FlagsAnomaly s t := by
  simp only [flagAnomaly, revertIf_bind, checkedAdd_bind, pure_eq_ok, not_not] at h
  obtain ⟨hrunning, hrole, -, hreason, -, rfl⟩ := h
  refine ⟨hrole, by simpa using hrunning, ?_⟩
  constructor
  case toSameCustody => exact ⟨rfl, rfl, rfl, rfl, rfl, rfl⟩
  case toSameDisputes => exact ⟨rfl, rfl, rfl, rfl⟩
  case toSameReports => exact ⟨rfl, rfl⟩
  case anomalies => exact ⟨_, rfl, hreason⟩
  case anomalyCount => rfl

theorem storeAuditReportHash_ok {reportHash : Bytes32}
    (h : storeAuditReportHash view msg reportHash s = .ok t) :
    view.roles auditorRole msg.sender = true ∧ StoresReport s t := by
  simp only [storeAuditReportHash, revertIf_bind, checkedAdd_bind, pure_eq_ok, not_not] at h
  obtain ⟨hrole, hhash, -, rfl⟩ := h
  refine ⟨hrole, ?_⟩
  constructor
  case toSameCustody => exact ⟨rfl, rfl, rfl, rfl, rfl, rfl⟩
  case toSameDisputes => exact ⟨rfl, rfl, rfl, rfl⟩
  case toSameAnomalies => exact ⟨rfl, rfl⟩
  case auditReports => exact ⟨_, rfl, hhash⟩
  case auditReportCount => rfl

theorem raiseDispute_ok {evidenceHash : Bytes32} {reason : String}
    (h : raiseDispute view msg tokenId evidenceHash reason s = .ok t) :
    view.roles auditorRole msg.sender = true ∧ s.paused = false ∧ RaisesDispute tokenId s t := by
  simp only [raiseDispute, revertIf_bind, checkedAdd_bind, pure_eq_ok, not_not] at h
  obtain ⟨hrunning, hrole, hnone, -, hreason, hundisputed, -, -, rfl⟩ := h
  refine ⟨hrole, by simpa using hrunning, ?_⟩
  constructor
  case toSameCustody => exact ⟨rfl, rfl, rfl, rfl, rfl, rfl⟩
  case toSameAnomalies => exact ⟨rfl, rfl⟩
  case toSameReports => exact ⟨rfl, rfl⟩
  case registered => exact hnone
  case undisputed => simpa using hundisputed
  case disputes => exact ⟨_, rfl, rfl, rfl, rfl, hreason⟩
  all_goals rfl

theorem resolveDispute_ok {disputeId : ℕ} {upheld : Bool} {reason : String}
    (h : resolveDispute view msg disputeId upheld reason s = .ok t) :
    view.roles defaultAdminRole msg.sender = true ∧ s.paused = false ∧
      ResolvesDispute disputeId upheld s t := by
  simp only [resolveDispute, revertIf_bind, not_not] at h
  obtain ⟨hrunning, hrole, hopen, -, h⟩ := h
  refine ⟨hrole, by simpa using hrunning, ?_⟩
  cases upheld with
  | true =>
    obtain rfl := pure_eq_ok.mp h
    constructor
    case toSameCustody => exact ⟨rfl, rfl, rfl, rfl, rfl, rfl⟩
    case toSameAnomalies => exact ⟨rfl, rfl⟩
    case toSameReports => exact ⟨rfl, rfl⟩
    case isOpen => exact hopen
    case disputes => exact ⟨_, _, rfl⟩
    all_goals rfl
  | false =>
    obtain ⟨hle, h⟩ := checkedSub_bind.mp h
    obtain rfl := pure_eq_ok.mp h
    constructor
    case toSameCustody => exact ⟨rfl, rfl, rfl, rfl, rfl, rfl⟩
    case toSameAnomalies => exact ⟨rfl, rfl⟩
    case toSameReports => exact ⟨rfl, rfl⟩
    case isOpen => exact hopen
    case disputes => exact ⟨_, _, rfl⟩
    case openDisputeCount => exact Nat.sub_add_cancel hle
    all_goals rfl

/-! ### All calls -/

/-- What a committed call has checked, and what it does. -/
def Call.Does (governance : Address) (view : View) (msg : Msg) (s t : SampraanAssetRegistry) :
    Call → Prop
  | .registerAsset assetIdDigest custodian _ _ =>
    Managed view msg s ∧ view.isActive custodian = true ∧ Registers assetIdDigest custodian s t
  | .assignAsset tokenId custodian =>
    Managed view msg s ∧ view.isActive custodian = true ∧
      ((s.assets tokenId).status = .pending ∨ (s.assets tokenId).status = .active) ∧
        MovesCustody tokenId custodian s t
  | .transferCustody tokenId toCustodian =>
    Managed view msg s ∧ view.isActive toCustodian = true ∧
      s.disputedAssets (s.assets tokenId).assetIdDigest = false ∧
        (s.assets tokenId).status = .active ∧ MovesCustody tokenId toCustodian s t
  | .activateAsset tokenId => Managed view msg s ∧ ChangesStatus tokenId .active s t
  | .suspendAsset tokenId => Managed view msg s ∧ ChangesStatus tokenId .suspended s t
  | .restoreAsset tokenId => Managed view msg s ∧ ChangesStatus tokenId .active s t
  | .revokeAsset tokenId => Managed view msg s ∧ ChangesStatus tokenId .revoked s t
  | .flagAnomaly _ _ _ =>
    view.roles auditorRole msg.sender = true ∧ s.paused = false ∧ FlagsAnomaly s t
  | .raiseDispute tokenId _ _ =>
    view.roles auditorRole msg.sender = true ∧ s.paused = false ∧ RaisesDispute tokenId s t
  | .resolveDispute disputeId upheld _ =>
    view.roles defaultAdminRole msg.sender = true ∧ s.paused = false ∧
      ResolvesDispute disputeId upheld s t
  | .storeAuditReportHash _ => view.roles auditorRole msg.sender = true ∧ StoresReport s t
  | .governancePause | .governanceUnpause => msg.sender = governance ∧ SetsPause s t
  | .governanceBurnNFT tokenId _ => msg.sender = governance ∧ Burns tokenId s t
  | .governanceForceTransfer tokenId toCustodian _ =>
    msg.sender = governance ∧ MovesCustody tokenId toCustodian s t
  | _ => False

theorem run_does {call : Call} (h : run governance view msg s call = .ok t) :
    call.Does governance view msg s t := by
  cases call with
  | registerAsset assetIdDigest custodian classificationDigest metadataDigest =>
    exact registerAsset_ok h
  | assignAsset tokenId custodian => exact assignAsset_ok h
  | transferCustody tokenId toCustodian => exact transferCustody_ok h
  | activateAsset tokenId => exact changeStatusAs_ok h
  | suspendAsset tokenId => exact changeStatusAs_ok h
  | restoreAsset tokenId => exact changeStatusAs_ok h
  | revokeAsset tokenId => exact changeStatusAs_ok h
  | flagAnomaly target tokenId reason => exact flagAnomaly_ok h
  | raiseDispute tokenId evidenceHash reason => exact raiseDispute_ok h
  | resolveDispute disputeId upheld reason => exact resolveDispute_ok h
  | storeAuditReportHash reportHash => exact storeAuditReportHash_ok h
  | governancePause =>
    simp only [run, governancePause, revertIf_bind, pure_eq_ok, not_not] at h
    obtain ⟨hsender, -, rfl⟩ := h
    exact ⟨hsender, ⟨rfl, rfl, rfl, rfl, rfl, rfl⟩, ⟨rfl, rfl, rfl, rfl⟩, ⟨rfl, rfl⟩, ⟨rfl, rfl⟩⟩
  | governanceUnpause =>
    simp only [run, governanceUnpause, revertIf_bind, pure_eq_ok, not_not] at h
    obtain ⟨hsender, -, rfl⟩ := h
    exact ⟨hsender, ⟨rfl, rfl, rfl, rfl, rfl, rfl⟩, ⟨rfl, rfl, rfl, rfl⟩, ⟨rfl, rfl⟩, ⟨rfl, rfl⟩⟩
  | governanceBurnNFT tokenId reason => exact governanceBurnNFT_ok h
  | governanceForceTransfer tokenId toCustodian reason => exact governanceForceTransfer_ok h
  | _ => cases h

/-- What a committed call does, whoever makes it. -/
inductive Effect (s t : SampraanAssetRegistry) : Prop
  | register (assetIdDigest : Bytes32) (custodian : Address)
    (h : Registers assetIdDigest custodian s t)
  | move (tokenId : ℕ) (custodian : Address) (h : MovesCustody tokenId custodian s t)
  | status (tokenId : ℕ) (newStatus : AssetStatus) (h : ChangesStatus tokenId newStatus s t)
  | burn (tokenId : ℕ) (h : Burns tokenId s t)
  | anomaly (h : FlagsAnomaly s t)
  | report (h : StoresReport s t)
  | raise (tokenId : ℕ) (h : RaisesDispute tokenId s t)
  | resolve (disputeId : ℕ) (upheld : Bool) (h : ResolvesDispute disputeId upheld s t)
  | pause (h : SetsPause s t)

theorem Call.Does.effect {call : Call} (h : call.Does governance view msg s t) : Effect s t := by
  cases call with
  | registerAsset assetIdDigest custodian classificationDigest metadataDigest =>
    exact .register _ _ h.2.2
  | assignAsset tokenId custodian => exact .move _ _ h.2.2.2
  | transferCustody tokenId toCustodian => exact .move _ _ h.2.2.2.2
  | activateAsset tokenId => exact .status _ _ h.2
  | suspendAsset tokenId => exact .status _ _ h.2
  | restoreAsset tokenId => exact .status _ _ h.2
  | revokeAsset tokenId => exact .status _ _ h.2
  | flagAnomaly target tokenId reason => exact .anomaly h.2.2
  | raiseDispute tokenId evidenceHash reason => exact .raise _ h.2.2
  | resolveDispute disputeId upheld reason => exact .resolve _ _ h.2.2
  | storeAuditReportHash reportHash => exact .report h.2
  | governancePause => exact .pause h.2
  | governanceUnpause => exact .pause h.2
  | governanceBurnNFT tokenId reason => exact .burn _ h.2
  | governanceForceTransfer tokenId toCustodian reason => exact .move _ _ h.2
  | _ => exact h.elim

theorem run_effect {call : Call} (h : run governance view msg s call = .ok t) : Effect s t :=
  (run_does h).effect

theorem Effect.custody_cases (h : Effect s t) : SameCustody s t ∨
    (∃ assetIdDigest custodian, Registers assetIdDigest custodian s t) ∨
      (∃ tokenId custodian, MovesCustody tokenId custodian s t) ∨
        (∃ tokenId newStatus, ChangesStatus tokenId newStatus s t) ∨
          ∃ tokenId, Burns tokenId s t := by
  cases h with
  | register d c h => exact .inr (.inl ⟨d, c, h⟩)
  | move n c h => exact .inr (.inr (.inl ⟨n, c, h⟩))
  | status n new h => exact .inr (.inr (.inr (.inl ⟨n, new, h⟩)))
  | burn n h => exact .inr (.inr (.inr (.inr ⟨n, h⟩)))
  | anomaly h => exact .inl h.toSameCustody
  | report h => exact .inl h.toSameCustody
  | raise n h => exact .inl h.toSameCustody
  | resolve id upheld h => exact .inl h.toSameCustody
  | pause h => exact .inl h.toSameCustody

theorem Effect.dispute_cases (h : Effect s t) : SameDisputes s t ∨
    (∃ tokenId, RaisesDispute tokenId s t) ∨
      ∃ disputeId upheld, ResolvesDispute disputeId upheld s t := by
  cases h with
  | raise n h => exact .inr (.inl ⟨n, h⟩)
  | resolve id upheld h => exact .inr (.inr ⟨id, upheld, h⟩)
  | register d c h => exact .inl h.toSameDisputes
  | move n c h => exact .inl h.toSameDisputes
  | status n new h => exact .inl h.toSameDisputes
  | burn n h => exact .inl h.toSameDisputes
  | anomaly h => exact .inl h.toSameDisputes
  | report h => exact .inl h.toSameDisputes
  | pause h => exact .inl h.toSameDisputes

end

end Sampraan.Contracts.SampraanAssetRegistry
