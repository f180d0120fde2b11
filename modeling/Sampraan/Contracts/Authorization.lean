import Sampraan.Contracts.Chain
import Sampraan.Contracts.Roles

/-! Which role a change of the contracts' joint state takes. -/

namespace Sampraan.Contracts

open Library

/-! ### The asset registry -/

namespace SampraanAssetRegistry

variable {governance : Address} {view : View} {msg : Msg} {s t : SampraanAssetRegistry}

theorem Call.Does.managed_or_same {call : Call} (h : call.Does governance view msg s t)
    (hsender : msg.sender ≠ governance) : Managed view msg s ∨ SameCustody s t := by
  cases call with
  | registerAsset d c cl m => exact .inl h.1
  | assignAsset m c => exact .inl h.1
  | transferCustody m c => exact .inl h.1
  | activateAsset m => exact .inl h.1
  | suspendAsset m => exact .inl h.1
  | restoreAsset m => exact .inl h.1
  | revokeAsset m => exact .inl h.1
  | flagAnomaly target m reason => exact .inr h.2.2.toSameCustody
  | raiseDispute m evidenceHash reason => exact .inr h.2.2.toSameCustody
  | resolveDispute m upheld reason => exact .inr h.2.2.toSameCustody
  | storeAuditReportHash reportHash => exact .inr h.2.toSameCustody
  | governancePause => exact absurd h.1 hsender
  | governanceUnpause => exact absurd h.1 hsender
  | governanceBurnNFT m reason => exact absurd h.1 hsender
  | governanceForceTransfer m c reason => exact absurd h.1 hsender
  | _ => exact h.elim

theorem Call.Does.hold {call : Call} (h : call.Does governance view msg s t) (d : Bytes32) :
    t.disputedAssets d = s.disputedAssets d ∨
      (t.disputedAssets d = true ∧ view.roles auditorRole msg.sender = true) ∨
        (t.disputedAssets d = false ∧ view.roles defaultAdminRole msg.sender = true) := by
  cases call with
  | registerAsset d' c cl m => exact .inl (congrFun h.2.2.disputedAssets d)
  | assignAsset m c => exact .inl (congrFun h.2.2.2.disputedAssets d)
  | transferCustody m c => exact .inl (congrFun h.2.2.2.2.disputedAssets d)
  | activateAsset m => exact .inl (congrFun h.2.disputedAssets d)
  | suspendAsset m => exact .inl (congrFun h.2.disputedAssets d)
  | restoreAsset m => exact .inl (congrFun h.2.disputedAssets d)
  | revokeAsset m => exact .inl (congrFun h.2.disputedAssets d)
  | flagAnomaly target m reason => exact .inl (congrFun h.2.2.disputedAssets d)
  | raiseDispute m evidenceHash reason =>
    rw [h.2.2.disputedAssets, Function.update_apply]
    split
    case isTrue => exact .inr (.inl ⟨rfl, h.1⟩)
    case isFalse => exact .inl rfl
  | resolveDispute m upheld reason =>
    rw [h.2.2.disputedAssets]
    cases upheld with
    | true => exact .inl rfl
    | false =>
      rw [if_neg Bool.false_ne_true, Function.update_apply]
      split
      case isTrue => exact .inr (.inr ⟨rfl, h.1⟩)
      case isFalse => exact .inl rfl
  | storeAuditReportHash reportHash => exact .inl (congrFun h.2.disputedAssets d)
  | governancePause => exact .inl (congrFun h.2.disputedAssets d)
  | governanceUnpause => exact .inl (congrFun h.2.disputedAssets d)
  | governanceBurnNFT m reason => exact .inl (congrFun h.2.disputedAssets d)
  | governanceForceTransfer m c reason => exact .inl (congrFun h.2.disputedAssets d)
  | _ => exact h.elim

end SampraanAssetRegistry

/-! ### The identity registry -/

namespace SampraanIdentityRegistry

variable {governance : Address} {roles : Roles} {sender : Address}
  {s t : SampraanIdentityRegistry}

theorem Effect.record (h : Effect governance roles sender s t) (hsender : sender ≠ governance)
    {wallet : Address} (hne : t.identities wallet ≠ s.identities wallet) :
    roles identityAdminRole sender = true := by
  cases h with
  | register w didDigest h hadmin => exact hadmin
  | move w newStatus h hmove =>
    generalize (s.identities w).status = old at hmove
    cases hmove with
    | verify hadmin => exact hadmin
    | suspend hadmin => exact hadmin
    | reactivate hadmin => exact hadmin
    | deactivate hgovernance hnone hdone => exact absurd hgovernance hsender
  | document w documentHash h hcaller =>
    refine absurd ?_ hne
    by_cases hw : wallet = w
    · rw [hw, h.record]
    · exact h.identities wallet hw

def SameDocuments (s t : SampraanIdentityRegistry) (wallet : Address) : Prop :=
  t.didDocumentHash wallet = s.didDocumentHash wallet ∧
    t.currentDidDocumentHash wallet = s.currentDidDocumentHash wallet

theorem Effect.sameDocuments (h : Effect governance roles sender s t) {wallet : Address}
    (hne : ¬ SameDocuments s t wallet) :
    roles identityAdminRole sender = true ∨ sender = wallet := by
  cases h with
  | register w didDigest h hadmin => exact .inl hadmin
  | move w newStatus h hmove => exact absurd ⟨congrFun h.hash _, congrFun h.current _⟩ hne
  | document w documentHash h hcaller =>
    by_cases hw : wallet = w
    · exact hw ▸ hcaller.symm
    · refine absurd ⟨?_, ?_⟩ hne
      · rw [h.hash, Function.update_of_ne hw]
      · rw [h.current, Function.update_of_ne hw]

end SampraanIdentityRegistry

/-! ### The contracts together -/

namespace Chain

open SampraanIdentityRegistry (SameDocuments)

variable {governance : Address} {msg : Msg} {s t : Chain} {call : Call}
  {log : List ((Msg × Call) × Chain × Chain)}

def SameToken (s t : SampraanAssetRegistry) (n : ℕ) : Prop :=
  t.assets n = s.assets n ∧ t.custodyHistory n = s.custodyHistory n ∧ t.owners n = s.owners n

theorem tokens_authorized (h : run governance msg s call = .ok t)
    (hsender : msg.sender ≠ governance) {n : ℕ}
    (hne : ¬ SameToken s.assetRegistry t.assetRegistry n) :
    s.accessControl.hasRole assetManagerRole msg.sender = true := by
  have hdoes := run_does h
  cases call with
  | accessControl call => exact absurd (hdoes.2.2 ▸ ⟨rfl, rfl, rfl⟩) hne
  | identityRegistry call => exact absurd (hdoes.2.2 ▸ ⟨rfl, rfl, rfl⟩) hne
  | assetRegistry call =>
    rcases (SampraanAssetRegistry.run_does hdoes.1).managed_or_same hsender with hmanaged | hsame
    · exact hmanaged.role
    · exact absurd ⟨congrFun hsame.assets n, congrFun hsame.custodyHistory n,
        congrFun hsame.owners n⟩ hne

theorem identities_authorized (h : run governance msg s call = .ok t)
    (hsender : msg.sender ≠ governance) {wallet : Address}
    (hne : t.identityRegistry.identities wallet ≠ s.identityRegistry.identities wallet) :
    s.accessControl.hasRole identityAdminRole msg.sender = true := by
  have hdoes := run_does h
  cases call with
  | accessControl call => exact absurd (by rw [hdoes.2.1]) hne
  | identityRegistry call => exact (SampraanIdentityRegistry.run_effect hdoes.1).record hsender hne
  | assetRegistry call => exact absurd (by rw [hdoes.2.2]) hne

theorem documents_authorized (h : run governance msg s call = .ok t) {wallet : Address}
    (hne : ¬ SameDocuments s.identityRegistry t.identityRegistry wallet) :
    s.accessControl.hasRole identityAdminRole msg.sender = true ∨ msg.sender = wallet := by
  have hdoes := run_does h
  cases call with
  | accessControl call => exact absurd (hdoes.2.1 ▸ ⟨rfl, rfl⟩) hne
  | identityRegistry call => exact (SampraanIdentityRegistry.run_effect hdoes.1).sameDocuments hne
  | assetRegistry call => exact absurd (hdoes.2.2 ▸ ⟨rfl, rfl⟩) hne

theorem roles_authorized (h : run governance msg s call = .ok t) {role : Bytes32}
    {account : Address}
    (hne : t.accessControl.hasRole role account ≠ s.accessControl.hasRole role account) :
    s.accessControl.hasRole defaultAdminRole msg.sender = true ∨
      (account = msg.sender ∧ call = .accessControl (.renounceRole role msg.sender) ∧
        t.accessControl.hasRole role account = false) := by
  have hdoes := run_does h
  cases call with
  | accessControl call =>
    obtain ⟨hallowed, hsets⟩ := SampraanAccessControl.run_sets hdoes.1
    cases call with
    | grantRole r a => exact .inl hallowed.1
    | revokeRole r a => exact .inl hallowed.1
    | renounceRole r a =>
      obtain rfl : a = msg.sender := hallowed
      rw [hsets.hasRole] at hne ⊢
      split at hne
      case isTrue hset =>
        obtain ⟨rfl, rfl⟩ : role = r ∧ account = msg.sender := hset
        exact .inr ⟨rfl, rfl, if_pos ⟨rfl, rfl⟩⟩
      case isFalse => exact absurd rfl hne
  | identityRegistry call => exact absurd (by rw [hdoes.2.1]) hne
  | assetRegistry call => exact absurd (by rw [hdoes.2.1]) hne

theorem hold_authorized (h : run governance msg s call = .ok t) (d : Bytes32) :
    t.assetRegistry.disputedAssets d = s.assetRegistry.disputedAssets d ∨
      (t.assetRegistry.disputedAssets d = true ∧
        s.accessControl.hasRole auditorRole msg.sender = true) ∨
        (t.assetRegistry.disputedAssets d = false ∧
          s.accessControl.hasRole defaultAdminRole msg.sender = true) := by
  have hdoes := run_does h
  cases call with
  | accessControl call => exact .inl (by rw [hdoes.2.2])
  | identityRegistry call => exact .inl (by rw [hdoes.2.2])
  | assetRegistry call => exact (SampraanAssetRegistry.run_does hdoes.1).hold d

/-- Every change that account `c` makes with a call takes the role for it. -/
structure Authorized (c : Address) (call : Call) (s t : Chain) : Prop where
  tokens : ∀ n, ¬ SameToken s.assetRegistry t.assetRegistry n →
    s.accessControl.hasRole assetManagerRole c = true
  identities : ∀ wallet,
    t.identityRegistry.identities wallet ≠ s.identityRegistry.identities wallet →
      s.accessControl.hasRole identityAdminRole c = true
  documents : ∀ wallet, ¬ SameDocuments s.identityRegistry t.identityRegistry wallet →
    s.accessControl.hasRole identityAdminRole c = true ∨ c = wallet
  roles : ∀ role account,
    t.accessControl.hasRole role account ≠ s.accessControl.hasRole role account →
      s.accessControl.hasRole defaultAdminRole c = true ∨
        (account = c ∧ call = .accessControl (.renounceRole role c) ∧
          t.accessControl.hasRole role account = false)
  holdSet : ∀ d, s.assetRegistry.disputedAssets d = false →
    t.assetRegistry.disputedAssets d = true → s.accessControl.hasRole auditorRole c = true
  holdCleared : ∀ d, s.assetRegistry.disputedAssets d = true →
    t.assetRegistry.disputedAssets d = false → s.accessControl.hasRole defaultAdminRole c = true

theorem run_authorized (h : run governance msg s call = .ok t)
    (hsender : msg.sender ≠ governance) : Authorized msg.sender call s t where
  tokens _ := tokens_authorized h hsender
  identities _ := identities_authorized h hsender
  documents _ := documents_authorized h
  roles _ _ := roles_authorized h
  holdSet d hold hnew := by
    have hd := hold_authorized h d
    simpa [hold, hnew] using hd
  holdCleared d hold hnew := by
    have hd := hold_authorized h d
    simpa [hold, hnew] using hd

theorem authorized_refl {c : Address} : Authorized c call s s where
  tokens _ hne := absurd ⟨rfl, rfl, rfl⟩ hne
  identities _ hne := absurd rfl hne
  documents _ hne := absurd ⟨rfl, rfl⟩ hne
  roles _ _ hne := absurd rfl hne
  holdSet d hold hnew := by
    rw [hold] at hnew
    cases hnew
  holdCleared d hold hnew := by
    rw [hold] at hnew
    cases hnew

/-! ### Accounts that hold only the auditor role -/

def AuditorOnly (s : Chain) (c : Address) : Prop :=
  ∀ role, s.accessControl.hasRole role c = true → role = auditorRole

/-- The call is made by an account that holds no other role than the auditor's. -/
def byAuditor (governance : Address) (k : Msg × Call) (s : Chain) : Prop :=
  k.1.sender ≠ governance ∧ AuditorOnly s k.1.sender

structure SameRecords (s t : Chain) : Prop where
  tokens : ∀ n, SameToken s.assetRegistry t.assetRegistry n
  identities : ∀ wallet,
    t.identityRegistry.identities wallet = s.identityRegistry.identities wallet
  roles : ∀ role account, t.accessControl.hasRole role account = true →
    s.accessControl.hasRole role account = true

theorem AuditorOnly.lacks {c : Address} (h : AuditorOnly s c) :
    s.accessControl.hasRole assetManagerRole c ≠ true ∧
      s.accessControl.hasRole identityAdminRole c ≠ true ∧
        s.accessControl.hasRole defaultAdminRole c ≠ true :=
  ⟨fun hrole => absurd (h _ hrole) (by decide), fun hrole => absurd (h _ hrole) (by decide),
    fun hrole => absurd (h _ hrole) (by decide)⟩

theorem SameRecords.of_auditor {k : Msg × Call} (hk : byAuditor governance k s)
    (ht : (machine governance).run k s = .ok t) : SameRecords s t := by
  obtain ⟨hsender, hauditor⟩ := hk
  obtain ⟨hmanager, hidentity, hadmin⟩ := hauditor.lacks
  refine ⟨fun n => ?_, fun wallet => ?_, fun role account hheld => ?_⟩
  · by_contra hne
    exact hmanager (tokens_authorized ht hsender hne)
  · by_contra hne
    exact hidentity (identities_authorized ht hsender hne)
  · by_contra hnot
    rcases roles_authorized ht fun heq => hnot (heq ▸ hheld) with hrole | ⟨-, -, hlost⟩
    · exact hadmin hrole
    · rw [hheld] at hlost
      cases hlost

theorem SameRecords.refl (s : Chain) : SameRecords s s :=
  ⟨fun _ => ⟨rfl, rfl, rfl⟩, fun _ => rfl, fun _ _ h => h⟩

theorem SameRecords.trans {u : Chain} (h : SameRecords s t) (h' : SameRecords t u) :
    SameRecords s u where
  tokens n := ⟨(h'.tokens n).1.trans (h.tokens n).1, (h'.tokens n).2.1.trans (h.tokens n).2.1,
    (h'.tokens n).2.2.trans (h.tokens n).2.2⟩
  identities wallet := (h'.identities wallet).trans (h.identities wallet)
  roles role account hheld := h.roles role account (h'.roles role account hheld)

/-- What such accounts leave alone in a run; a role they give up is their own. -/
structure KeptByAuditors (log : List ((Msg × Call) × Chain × Chain)) (s t : Chain) : Prop where
  tokens : ∀ n, SameToken s.assetRegistry t.assetRegistry n
  identities : ∀ wallet,
    t.identityRegistry.identities wallet = s.identityRegistry.identities wallet
  roles : ∀ role account,
    t.accessControl.hasRole role account ≠ s.accessControl.hasRole role account →
      t.accessControl.hasRole role account = false ∧ ∃ e ∈ log, e.1.1.sender = account ∧
        e.1.2 = .accessControl (.renounceRole role account)

theorem kept_by_auditors (hr : (machine governance).Run (byAuditor governance) s log t) :
    KeptByAuditors log s t := by
  have hsame : SameRecords s t := hr.monotone (I := fun _ => True) SameRecords.refl
    (fun _ _ _ => .trans) trivial (fun _ _ _ _ _ _ => trivial)
    fun _ _ _ _ hk ht => .of_auditor hk ht
  refine ⟨hsame.tokens, hsame.identities, fun role account hne => ?_⟩
  have hlost : t.accessControl.hasRole role account = false := by
    by_contra hheld
    rw [Bool.not_eq_false] at hheld
    exact hne (hheld.trans (hsame.roles role account hheld).symm)
  have hheld : s.accessControl.hasRole role account = true := by
    rwa [hlost, ne_comm, Ne, Bool.not_eq_false] at hne
  obtain ⟨h₁, e, h₂, rfl, hpre, hpost⟩ := hr.cause
    (Q := fun t => t.accessControl.hasRole role account = false) (by simp [hheld]) hlost
  obtain ⟨-, ⟨-, hauditor⟩, hrun, -⟩ := hr.split
  rcases roles_authorized hrun fun heq => hpre (heq ▸ hpost) with hadmin | ⟨rfl, hcall, -⟩
  · exact absurd hadmin hauditor.lacks.2.2
  · exact ⟨hlost, e, by simp, rfl, hcall⟩

theorem authorization_frame (governance : Address) (s : Chain) :
    (∀ msg call, msg.sender ≠ governance →
      Authorized msg.sender call s ((machine governance).after (msg, call) s)) ∧
    ∀ log t, (machine governance).Run (byAuditor governance) s log t → KeptByAuditors log s t := by
  refine ⟨fun msg call hsender => ?_, fun log t hr => kept_by_auditors hr⟩
  rcases Machine.after_eq (M := machine governance) (k := (msg, call)) (s := s) with hsame | hrun
  · rw [hsame]
    exact authorized_refl
  · exact run_authorized hrun hsender

def auditedChain : Chain :=
  (machine 0x60).after (SampraanAccessControl.sampleDeployer,
    .accessControl (.grantRole auditorRole 0xA0D)) (deploy SampraanAccessControl.sampleState)

theorem auditedChain_run : (machine 0x60).run (SampraanAccessControl.sampleDeployer,
    .accessControl (.grantRole auditorRole 0xA0D)) (deploy SampraanAccessControl.sampleState) =
      .ok auditedChain := by rfl

theorem auditedChain_auditorOnly : AuditorOnly auditedChain 0xA0D := by
  intro role hheld
  by_contra hne
  have hgrant : run 0x60 SampraanAccessControl.sampleDeployer
      (deploy SampraanAccessControl.sampleState)
      (.accessControl (.grantRole auditorRole 0xA0D)) = .ok auditedChain := auditedChain_run
  rw [(SampraanAccessControl.run_sets (run_does hgrant).1).2.hasRole,
    if_neg fun h => hne h.1] at hheld
  have hdeployed := SampraanAccessControl.deploy_ok SampraanAccessControl.deploy_sampleDeployer
  exact absurd ((hdeployed.2 _ _).mp hheld).1 (by decide)

def auditorMsg : Msg := { sender := 0xA0D, timestamp := 1700000000 }

theorem authorization_frame_sample : ∃ log t, t.assetRegistry.anomalyCount = 1 ∧
    (machine 0x60).Run (byAuditor 0x60) auditedChain log t ∧ KeptByAuditors log auditedChain t ∧
      Authorized 0xA0D (.assetRegistry (.flagAnomaly 0xB0B 0 "odd log-in")) auditedChain
        ((machine 0x60).after
          (auditorMsg, .assetRegistry (.flagAnomaly 0xB0B 0 "odd log-in")) auditedChain) := by
  obtain ⟨t, ht, hcount⟩ : ∃ t, (machine 0x60).run
      (auditorMsg, .assetRegistry (.flagAnomaly 0xB0B 0 "odd log-in")) auditedChain = .ok t ∧
        t.assetRegistry.anomalyCount = 1 := ⟨_, rfl, rfl⟩
  have hrun : (machine 0x60).Run (byAuditor 0x60) auditedChain _ t :=
    Machine.Run.init.call ⟨by decide, auditedChain_auditorOnly⟩ ht
  obtain ⟨hcall, hruns⟩ := authorization_frame 0x60 auditedChain
  exact ⟨_, t, hcount, hrun, hruns _ t hrun, hcall auditorMsg _ (by decide)⟩

/-- An auditor can give up the auditor role, which is a change of the roles. -/
theorem not_rolesKeptByAuditors : ¬ ∀ s log t,
    (machine 0x60).Reachable (deploy SampraanAccessControl.sampleState) s →
      (machine 0x60).Run (byAuditor 0x60) s log t → ∀ role account,
        t.accessControl.hasRole role account = s.accessControl.hasRole role account := by
  intro hkept
  have hreach : (machine 0x60).Reachable (deploy SampraanAccessControl.sampleState) auditedChain :=
    ⟨_, Machine.Run.init.call trivial auditedChain_run⟩
  obtain ⟨t, ht, hlost⟩ : ∃ t, (machine 0x60).run
      (auditorMsg, .accessControl (.renounceRole auditorRole 0xA0D)) auditedChain = .ok t ∧
        t.accessControl.hasRole auditorRole 0xA0D ≠
          auditedChain.accessControl.hasRole auditorRole 0xA0D := ⟨_, rfl, by decide⟩
  have hrun : (machine 0x60).Run (byAuditor 0x60) auditedChain _ t :=
    Machine.Run.init.call ⟨by decide, auditedChain_auditorOnly⟩ ht
  exact hlost (hkept _ _ _ hreach hrun auditorRole 0xA0D)

end Chain

end Sampraan.Contracts
