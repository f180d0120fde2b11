import Sampraan.Contracts.Chain
import Sampraan.Contracts.Roles
import Sampraan.Library.Trail

/-! Custody records, the stored custodian and the ERC-721 owner, over every run of the contracts. -/

namespace Sampraan.Contracts

open Library

namespace SampraanAssetRegistry

variable {governance : Address} {view : View} {msg : Msg} {s t : SampraanAssetRegistry} {n : ℕ}
  {C : View × Msg × Call → SampraanAssetRegistry → Prop}
  {log : List ((View × Msg × Call) × SampraanAssetRegistry × SampraanAssetRegistry)}

/-! ### The invariant -/

structure Aligned (s : SampraanAssetRegistry) (n : ℕ) : Prop where
  unminted : s.status n = .none → s.owners n = 0 ∧ s.custodyHistory n = []
  trail : Trail CustodyRecord.fromCustodian CustodyRecord.toCustodian 0 (s.custodyHistory n)
  length : s.status n ≠ .none → s.custodyHistoryLength n = (s.custodyHistory n).length
  last : s.status n ≠ .none →
    trailEnd CustodyRecord.toCustodian 0 (s.custodyHistory n) = s.custodian n
  custodian_ne : s.status n ≠ .none → s.custodian n ≠ 0
  owner : s.status n ≠ .none → s.owners n = s.custodian n ∨ s.owners n = 0

theorem aligned_deploy : Aligned deploy n where
  unminted _ := ⟨rfl, rfl⟩
  trail := .nil
  length h := absurd rfl h
  last h := absurd rfl h
  custodian_ne h := absurd rfl h
  owner h := absurd rfl h

theorem Aligned.of_same (hs : Aligned s n) (hcustody : t.custody n = s.custody n)
    (hlength : t.custodyHistoryLength n = s.custodyHistoryLength n)
    (hnone : t.status n = .none ↔ s.status n = .none) : Aligned t n := by
  obtain ⟨hcustodian, howner, hhistory⟩ : t.custodian n = s.custodian n ∧
      t.owners n = s.owners n ∧ t.custodyHistory n = s.custodyHistory n := by
    simpa only [custody, Prod.mk.injEq] using hcustody
  constructor
  case unminted => rw [hnone, howner, hhistory]; exact hs.unminted
  case trail => rw [hhistory]; exact hs.trail
  case length => rw [Ne, hnone, hlength, hhistory]; exact hs.length
  case last => rw [Ne, hnone, hhistory, hcustodian]; exact hs.last
  case custodian_ne => rw [Ne, hnone, hcustodian]; exact hs.custodian_ne
  case owner => rw [Ne, hnone, howner, hcustodian]; exact hs.owner

theorem SameCustody.aligned (h : SameCustody s t) (hs : Aligned s n) : Aligned t n :=
  hs.of_same (h.custody n) (congrFun h.custodyHistoryLength n) (by rw [h.status])

theorem Registers.aligned {assetIdDigest : Bytes32} {c : Address}
    (h : Registers assetIdDigest c s t) (ht : Tokens s) (hs : Aligned s n) : Aligned t n := by
  by_cases hn : n = s.nextTokenId
  case neg =>
    refine hs.of_same (h.custody hn) ?_ (by rw [(h.elsewhere hn).1])
    rw [h.custodyHistoryLength, Function.update_of_ne hn]
  subst hn
  obtain ⟨asset, hassets, -, hstatus, hcustodian⟩ := h.assets
  obtain ⟨record, hhistory, hfrom, hto⟩ := h.custodyHistory
  have hlog : t.custodyHistory s.nextTokenId = [record] := by
    rw [hhistory, Function.update_self, (hs.unminted ht.next_unregistered).2, List.nil_append]
  have hc : t.custodian s.nextTokenId = c := by
    rw [custodian, hassets, Function.update_self, hcustodian]
  constructor
  case unminted =>
    intro hnone
    rw [h.at_next.1] at hnone
    cases hnone
  case trail =>
    rw [hlog]
    exact Trail.nil.append hfrom
  case length =>
    intro _
    rw [hlog, h.custodyHistoryLength, Function.update_self, List.length_singleton]
  case last =>
    intro _
    rw [hlog, hc]
    exact hto
  case custodian_ne =>
    intro _
    rw [hc]
    exact h.custodian_ne
  case owner =>
    intro _
    rw [hc, h.owners, Function.update_self]
    exact .inl rfl

theorem MovesCustody.aligned {m : ℕ} {c : Address} (h : MovesCustody m c s t) (hs : Aligned s n) :
    Aligned t n := by
  by_cases hn : n = m
  case neg =>
    refine hs.of_same (h.custody hn) ?_ (by rw [h.status])
    rw [h.custodyHistoryLength, Function.update_of_ne hn]
  subst hn
  obtain ⟨time, hassets⟩ := h.assets
  obtain ⟨record, hhistory, hfrom, hto⟩ := h.custodyHistory
  have hregistered : s.status n ≠ .none := h.registered
  have hlog : t.custodyHistory n = s.custodyHistory n ++ [record] := by
    rw [hhistory, Function.update_self]
  have hc : t.custodian n = c := by
    rw [custodian, hassets, Function.update_self]
  constructor
  case unminted =>
    rw [h.status]
    exact fun hnone => absurd hnone hregistered
  case trail =>
    rw [hlog]
    exact hs.trail.append (hfrom.trans (hs.last hregistered).symm)
  case length =>
    intro _
    rw [hlog, h.custodyHistoryLength, Function.update_self, hs.length hregistered,
      List.length_append, List.length_singleton]
  case last =>
    intro _
    rw [hlog, trailEnd_append, hto, hc]
  case custodian_ne =>
    intro _
    rw [hc]
    exact h.custodian_ne
  case owner =>
    intro _
    rw [hc, h.owners, Function.update_self]
    exact .inl rfl

theorem Burns.aligned {m : ℕ} (h : Burns m s t) (hs : Aligned s n) : Aligned t n := by
  by_cases hn : n = m
  case neg =>
    refine hs.of_same (h.custody hn) (congrFun h.custodyHistoryLength n) ?_
    rw [h.toSetsStatus.status, if_neg hn]
  subst hn
  have hregistered : s.status n ≠ .none := h.live.1
  have hc := h.toSetsStatus.custodian n
  constructor
  case unminted =>
    rw [h.toSetsStatus.status, if_pos rfl]
    exact nofun
  case trail =>
    rw [h.custodyHistory]
    exact hs.trail
  case length =>
    intro _
    rw [h.custodyHistoryLength, h.custodyHistory]
    exact hs.length hregistered
  case last =>
    intro _
    rw [h.custodyHistory, hc]
    exact hs.last hregistered
  case custodian_ne =>
    intro _
    rw [hc]
    exact hs.custodian_ne hregistered
  case owner =>
    intro _
    rw [h.owners, Function.update_self]
    exact .inr rfl

theorem Effect.aligned (h : Effect s t) (ht : Tokens s) (hs : Aligned s n) : Aligned t n := by
  obtain hsame | ⟨d, c, h⟩ | ⟨m, c, h⟩ | ⟨m, new, h⟩ | ⟨m, h⟩ := h.custody_cases
  · exact hsame.aligned hs
  · exact h.aligned ht hs
  · exact h.aligned hs
  · refine hs.of_same (h.custody n) (congrFun h.custodyHistoryLength n) ?_
    rw [h.toSetsStatus.status]
    split
    case isTrue hn =>
      subst hn
      exact iff_of_false h.change.ne_none.2 h.change.ne_none.1
    case isFalse => exact Iff.rfl
  · exact h.aligned hs

theorem aligned_of_run (hr : (machine governance).Run C deploy log s) :
    Tokens s ∧ ∀ n, Aligned s n :=
  hr.invariant (I := fun s => Tokens s ∧ ∀ n, Aligned s n)
    ⟨tokens_deploy, fun _ => aligned_deploy⟩ fun _ _ _ hs _ ht =>
      ⟨(run_effect ht).tokens hs.1, fun n => (run_effect ht).aligned hs.1 (hs.2 n)⟩

/-! ### Burned tokens -/

def Dead (s : SampraanAssetRegistry) (n : ℕ) : Prop := s.status n ≠ .none ∧ s.owners n = 0

def burnsToken (n : ℕ) (call : Call) : Prop := ∃ reason, call = .governanceBurnNFT n reason

theorem Effect.dead (h : Effect s t) (ht : Tokens s) (hs : Dead s n) : Dead t n := by
  obtain hsame | ⟨d, c, h⟩ | ⟨m, c, h⟩ | ⟨m, new, h⟩ | ⟨m, h⟩ := h.custody_cases
  · rwa [Dead, hsame.status, hsame.owners]
  · have hn : n ≠ s.nextTokenId := fun hn => hs.1 (hn ▸ ht.next_unregistered)
    rw [Dead, (h.elsewhere hn).1, h.owners, Function.update_of_ne hn]
    exact hs
  · have hn : n ≠ m := fun hn => h.owned (hn ▸ hs.2)
    rw [Dead, h.status, h.owners, Function.update_of_ne hn]
    exact hs
  · rw [Dead, h.toSetsStatus.status, h.owners]
    split
    case isTrue => exact ⟨h.change.ne_none.2, hs.2⟩
    case isFalse => exact hs
  · have hn : n ≠ m := fun hn => h.owned (hn ▸ hs.2)
    rw [Dead, h.toSetsStatus.status, if_neg hn, h.owners, Function.update_of_ne hn]
    exact hs

theorem Call.Does.burns {call : Call} (h : call.Does governance view msg s t)
    (hpre : ¬ Dead s n) (hpost : Dead t n) : burnsToken n call := by
  by_cases hcustody : t.custody n = s.custody n
  case pos =>
    have howner : t.owners n = s.owners n := congrArg (fun c => c.2.1) hcustody
    have hnone : s.status n = .none := by
      by_contra hregistered
      exact hpre ⟨hregistered, howner ▸ hpost.2⟩
    rcases h.effect.keepsTokens with ⟨d, c, hr⟩ | hk
    · by_cases hn : n = s.nextTokenId
      · have howned := hpost.2
        rw [hr.owners, hn, Function.update_self] at howned
        exact absurd howned hr.custodian_ne
      · rw [Dead, (hr.elsewhere hn).1] at hpost
        exact absurd hnone hpost.1
    · exact absurd ((hk.unregistered n).mpr hnone) hpost.1
  have hmoved := h.moved hcustody
  have howned := hpost.2
  cases hmoved with
  | register hn hmanaged =>
    rw [h.2.2.owners, hn, Function.update_self] at howned
    exact absurd howned h.2.2.custodian_ne
  | assign hmanaged hstatus =>
    rw [h.2.2.2.owners, Function.update_self] at howned
    exact absurd howned h.2.2.2.custodian_ne
  | transfer hmanaged hstatus hundisputed =>
    rw [h.2.2.2.2.owners, Function.update_self] at howned
    exact absurd howned h.2.2.2.2.custodian_ne
  | burn hsender hlive => exact ⟨_, rfl⟩
  | force hsender =>
    rw [h.2.owners, Function.update_self] at howned
    exact absurd howned h.2.custodian_ne

theorem dead_iff_burned (hr : (machine governance).Run C deploy log s) :
    Dead s n ↔ ∃ e ∈ log, burnsToken n e.1.2.2 := by
  constructor
  · intro hdead
    obtain ⟨h₁, e, h₂, rfl, hpre, hpost⟩ := hr.cause (Q := (Dead · n)) (fun h => h.1 rfl) hdead
    obtain ⟨-, -, hrun, -⟩ := hr.split
    exact ⟨e, by simp, (run_does hrun).burns hpre hpost⟩
  · refine (hr.once (I := Tokens) (Dead · n) (fun e => burnsToken n e.1.2.2)
      tokens_deploy (fun _ _ _ hs _ ht => (run_effect ht).tokens hs)
      (fun _ _ _ hs _ ht => (run_effect ht).dead hs) ?_).2
    rintro ⟨⟨view, msg, call⟩, s, t⟩ - - hrun ⟨reason, hcall⟩
    have hburns : call.Does governance view msg s t := run_does hrun
    subst hcall
    refine ⟨fun h => hburns.2.owned h.2, ?_, ?_⟩
    · rw [hburns.2.toSetsStatus.status, if_pos rfl]
      exact nofun
    · rw [hburns.2.owners, Function.update_self]

/-! ### Who receives custody -/

/-- The call writes the record at index `i` of the token's history. -/
def WritesRecord (n i : ℕ) (record : CustodyRecord) (s t : SampraanAssetRegistry) : Prop :=
  (s.custodyHistory n).length = i ∧ t.custodyHistory n = s.custodyHistory n ++ [record]

def forcesTransfer (n : ℕ) (call : Call) : Prop :=
  ∃ toCustodian reason, call = .governanceForceTransfer n toCustodian reason

theorem Call.Does.writes {call : Call} (h : call.Does governance view msg s t)
    (hne : t.custodyHistory n ≠ s.custodyHistory n) :
    ∃ record, t.custodyHistory n = s.custodyHistory n ++ [record] ∧
      (forcesTransfer n call ∨ view.isActive record.toCustodian = true) := by
  have hcustody : t.custody n ≠ s.custody n := fun heq => hne (congrArg (fun c => c.2.2) heq)
  have hmoved := h.moved hcustody
  cases hmoved with
  | register hn hmanaged =>
    obtain ⟨record, hhistory, -, hto⟩ := h.2.2.custodyHistory
    refine ⟨record, ?_, .inr (hto ▸ h.2.1)⟩
    rw [hhistory, hn, Function.update_self]
  | assign hmanaged hstatus =>
    obtain ⟨record, hhistory, -, hto⟩ := h.2.2.2.custodyHistory
    refine ⟨record, ?_, .inr (hto ▸ h.2.1)⟩
    rw [hhistory, Function.update_self]
  | transfer hmanaged hstatus hundisputed =>
    obtain ⟨record, hhistory, -, hto⟩ := h.2.2.2.2.custodyHistory
    refine ⟨record, ?_, .inr (hto ▸ h.2.1)⟩
    rw [hhistory, Function.update_self]
  | burn hsender hlive => exact absurd (congrFun h.2.custodyHistory n) hne
  | force hsender =>
    obtain ⟨record, hhistory, -⟩ := h.2.custodyHistory
    refine ⟨record, ?_, .inl ⟨_, _, rfl⟩⟩
    rw [hhistory, Function.update_self]

theorem written (hr : (machine governance).Run C deploy log s) {i : ℕ} {record : CustodyRecord}
    (hrecord : (s.custodyHistory n)[i]? = some record) :
    ∃ e ∈ log, WritesRecord n i record e.2.1 e.2.2 ∧
      (forcesTransfer n e.1.2.2 ∨ e.1.1.isActive record.toCustodian = true) := by
  obtain ⟨h₁, e, h₂, rfl, hpre, hpost⟩ := hr.cause
    (Q := fun s => (s.custodyHistory n)[i]? = some record) (by simp [deploy]) hrecord
  obtain ⟨-, -, hrun, -⟩ := hr.split
  have hdoes := run_does hrun
  obtain ⟨last, hhistory, hrecipient⟩ := hdoes.writes (n := n) fun hsame => hpre (hsame ▸ hpost)
  rw [hhistory, List.getElem?_append] at hpost
  split at hpost
  case isTrue => exact absurd hpost hpre
  case isFalse hle =>
    obtain ⟨hi, hlast⟩ := List.getElem?_eq_some_iff.mp hpost
    rw [List.length_singleton] at hi
    have hlength : (e.2.1.custodyHistory n).length = i := by omega
    obtain rfl : last = record := by simpa using hlast
    exact ⟨e, by simp, ⟨hlength, hhistory⟩, hrecipient⟩

end SampraanAssetRegistry

/-! ### The contracts together -/

namespace Chain

open SampraanAssetRegistry

variable {governance : Address} {s : Chain} {C : Msg × Call → Chain → Prop}
  {accessControl : SampraanAccessControl} {log : List ((Msg × Call) × Chain × Chain)}

def Burned (log : List ((Msg × Call) × Chain × Chain)) (n : ℕ) : Prop :=
  ∃ e ∈ log, ∃ call, e.1.2 = .assetRegistry call ∧ burnsToken n call

structure CustodyAligned (log : List ((Msg × Call) × Chain × Chain)) (s : Chain) (n : ℕ) :
    Prop where
  length : s.assetRegistry.custodyHistoryLength n = (s.assetRegistry.custodyHistory n).length
  nonempty : s.assetRegistry.custodyHistory n ≠ []
  trail : Trail CustodyRecord.fromCustodian CustodyRecord.toCustodian 0
    (s.assetRegistry.custodyHistory n)
  last : trailEnd CustodyRecord.toCustodian 0 (s.assetRegistry.custodyHistory n) =
    s.assetRegistry.custodian n
  owner : ¬ Burned log n → s.assetRegistry.owners n = s.assetRegistry.custodian n
  burned : Burned log n → s.assetRegistry.owners n = 0
  recipients : ∀ i record, (s.assetRegistry.custodyHistory n)[i]? = some record →
    ∃ e ∈ log, WritesRecord n i record e.2.1.assetRegistry e.2.2.assetRegistry ∧
      ((∃ call, e.1.2 = .assetRegistry call ∧ forcesTransfer n call) ∨
        e.2.1.identityRegistry.status record.toCustodian = .verified)

theorem assetCall_eq_some {k : Msg × Call} {k' : View × Msg × SampraanAssetRegistry.Call} :
    assetCall k s = some k' ↔ k.2 = .assetRegistry k'.2.2 ∧ k'.1 = s.view ∧ k'.2.1 = k.1 := by
  obtain ⟨msg, call⟩ := k
  obtain ⟨view, msg', call'⟩ := k'
  cases call with
  | assetRegistry call =>
    simp only [assetCall, Option.some.injEq, Prod.mk.injEq, Call.assetRegistry.injEq]
    exact ⟨fun ⟨hview, hmsg, hcall⟩ => ⟨hcall, hview.symm, hmsg.symm⟩,
      fun ⟨hcall, hview, hmsg⟩ => ⟨hview.symm, hmsg.symm, hcall⟩⟩
  | _ => simp [assetCall]

theorem dead_iff_burned (hr : (machine governance).Run C (deploy accessControl) log s) {n : ℕ} :
    Dead s.assetRegistry n ↔ Burned log n := by
  rw [SampraanAssetRegistry.dead_iff_burned (assetRegistry_run hr)]
  constructor
  · rintro ⟨e', he', hburns⟩
    obtain ⟨e, he, hcall, -⟩ := Machine.mem_project.mp he'
    exact ⟨e, he, _, (assetCall_eq_some.mp hcall).1, hburns⟩
  · rintro ⟨e, he, call, hcall, hburns⟩
    have hsome : assetCall e.1 e.2.1 = some (e.2.1.view, e.1.1, call) :=
      assetCall_eq_some.mpr ⟨hcall, rfl, rfl⟩
    exact ⟨(_, e.2.1.assetRegistry, e.2.2.assetRegistry),
      Machine.mem_project.mpr ⟨e, he, hsome, rfl, rfl⟩, hburns⟩

theorem custody_aligned (hr : (machine governance).Run (fun _ _ => True) (deploy accessControl) log s)
    {n : ℕ} (hregistered : s.assetRegistry.status n ≠ .none) : CustodyAligned log s n := by
  have hasset := assetRegistry_run hr
  have hs := (aligned_of_run hasset).2 n
  have hburned := dead_iff_burned hr (n := n)
  refine ⟨hs.length hregistered, fun hnil => hs.custodian_ne hregistered ?_, hs.trail,
    hs.last hregistered, fun hnot => ?_, fun h => (hburned.mpr h).2, fun i record hrecord => ?_⟩
  · rw [← hs.last hregistered, hnil]
    rfl
  · exact (hs.owner hregistered).resolve_right fun hzero => hnot (hburned.mp ⟨hregistered, hzero⟩)
  · obtain ⟨e', he', hwrites, hrecipient⟩ := written hasset hrecord
    obtain ⟨e, he, hcall, hpre, hpost⟩ := Machine.mem_project.mp he'
    obtain ⟨hasset, hview, -⟩ := assetCall_eq_some.mp hcall
    refine ⟨e, he, by rwa [hpre, hpost], hrecipient.imp (fun h => ⟨_, hasset, h⟩) fun h => ?_⟩
    rw [hview] at h
    exact of_decide_eq_true h

def sampleCalls : List (Msg × Call) :=
  let admin : Msg := { sender := 0xA11CE, timestamp := 1700000000 }
  [(admin, .identityRegistry (.registerIdentity 0xB0B 0xD1D 0x9B)),
    (admin, .identityRegistry (.verifyIdentity 0xB0B "papers seen")),
    (admin, .identityRegistry (.registerIdentity 0xCA401 0xD2D 0x9C)),
    (admin, .identityRegistry (.verifyIdentity 0xCA401 "papers seen")),
    (admin, .assetRegistry (.registerAsset 0xA55E7 0xB0B 0xC1 0x3D)),
    (admin, .assetRegistry (.assignAsset 1 0xCA401)),
    ({ admin with sender := 0x60 }, .assetRegistry (.governanceForceTransfer 1 0xDA7E "recovery"))]

theorem custody_aligned_sample : ∃ log s, s.assetRegistry.custodian 1 = 0xDA7E ∧
    s.identityRegistry.status 0xDA7E = .none ∧ CustodyAligned log s 1 := by
  obtain ⟨⟨log, s⟩, hexec, hcustodian, hnone, hstatus⟩ : ∃ r, (machine 0x60).exec (fun _ _ => True)
      sampleCalls [] (deploy SampraanAccessControl.sampleState) = some r ∧
        r.2.assetRegistry.custodian 1 = 0xDA7E ∧ r.2.identityRegistry.status 0xDA7E = .none ∧
          r.2.assetRegistry.status 1 ≠ .none := ⟨_, rfl, rfl, rfl, by decide⟩
  exact ⟨log, s, hcustodian, hnone, custody_aligned (Machine.exec_run .init hexec) hstatus⟩

end Chain

end Sampraan.Contracts
