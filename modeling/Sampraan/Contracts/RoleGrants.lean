import Sampraan.Contracts.Chain
import Sampraan.Contracts.Roles

/-! Administrative roles, and the identities of those who are granted them. -/

namespace Sampraan.Contracts.Chain

open Library
open SampraanAccessControl (administrativeRoles adminHolders)

/-- Every account that a transaction makes hold an administrative role is VERIFIED just then. -/
def VettedGrants (trace : List ((Msg × Call) × Chain × Chain)) : Prop :=
  ∀ e ∈ trace, ∀ role ∈ administrativeRoles, ∀ account,
    e.2.1.accessControl.hasRole role account = false →
      e.2.2.accessControl.hasRole role account = true →
        e.2.1.identityRegistry.isActive account = true

/-- An administrator grants an administrative role to an account that does not hold it and is not
VERIFIED. -/
def UnvettedGrant (k : Msg × Call) (s : Chain) : Prop :=
  ∃ role ∈ administrativeRoles, ∃ account, k.2 = .accessControl (.grantRole role account) ∧
    s.accessControl.hasRole defaultAdminRole k.1.sender = true ∧
      s.accessControl.hasRole role account = false ∧
        s.identityRegistry.isActive account = false

def CountedAdmins (s : Chain) : Prop :=
  s.accessControl.adminHolderCount = (adminHolders s.accessControl).ncard

variable {governance : Address} {deployer msg : Msg} {accessControl : SampraanAccessControl}
  {k : Msg × Call} {s t : Chain}

theorem CountedAdmins.run (hs : CountedAdmins s) (ht : (machine governance).run k s = .ok t) :
    CountedAdmins t := by
  obtain ⟨msg, call⟩ := k
  have hdoes := run_does ht
  cases call with
  | accessControl call => exact (SampraanAccessControl.run_sets hdoes.1).2.counted hs
  | identityRegistry call => rwa [CountedAdmins, hdoes.2.1]
  | assetRegistry call => rwa [CountedAdmins, hdoes.2.1]

theorem countedAdmins_deploy (h₀ : SampraanAccessControl.deploy deployer = .ok accessControl) :
    CountedAdmins (deploy accessControl) := by
  obtain ⟨hcount, hroles⟩ := SampraanAccessControl.deploy_ok h₀
  have hholders : adminHolders accessControl = {deployer.sender} := by
    ext a
    simp [hroles]
  have hsame : (deploy accessControl).accessControl = accessControl := rfl
  rw [CountedAdmins, hsame, hholders, hcount, Set.ncard_singleton]

/-- There are fewer addresses than the counter can count. -/
theorem CountedAdmins.lt (hs : CountedAdmins s) : s.accessControl.adminHolderCount + 1 < 2 ^ 256 := by
  have hcard : Nat.card Address ≤ 2 ^ 160 := by
    have hinj := Nat.card_le_card_of_injective (BitVec.toFin (w := 160)) fun _ _ => BitVec.eq_of_toFin_eq
    rwa [Nat.card_fin] at hinj
  have hle := Set.ncard_le_ncard (Set.subset_univ (adminHolders s.accessControl))
  rw [Set.ncard_univ] at hle
  have hbound : (2 : ℕ) ^ 160 + 1 < 2 ^ 256 := by decide
  have hcount := hs.trans_le (hle.trans hcard)
  omega

theorem exists_innerGrantRole {role : Bytes32} {account : Address} {s : SampraanAccessControl}
    (hcount : s.adminHolderCount + 1 < 2 ^ 256) :
    ∃ t, SampraanAccessControl.innerGrantRole role account s = .ok t := by
  by_cases hheld : s.hasRole role account = true
  · exact ⟨s, by simp [SampraanAccessControl.innerGrantRole, SampraanAccessControl.baseGrantRole, hheld]⟩
  simp only [SampraanAccessControl.innerGrantRole, SampraanAccessControl.baseGrantRole, if_neg hheld]
  split
  · simp only [checkedAdd_bind, pure_eq_ok]
    exact ⟨_, hcount, rfl⟩
  · exact ⟨_, rfl⟩

theorem exists_grantRole {role : Bytes32} {account : Address} {s : SampraanAccessControl}
    (hrole : role ∈ administrativeRoles) (hadmin : s.hasRole defaultAdminRole msg.sender = true)
    (hcount : s.adminHolderCount + 1 < 2 ^ 256) :
    ∃ t, SampraanAccessControl.run msg (.grantRole role account) s = .ok t := by
  have hother : role ≠ auditorRole := fun h => SampraanAccessControl.auditorRole_notMem (h ▸ hrole)
  obtain ⟨t, ht⟩ := @exists_innerGrantRole role account s hcount
  refine ⟨t, ?_⟩
  simp only [SampraanAccessControl.run, SampraanAccessControl.grantRole, SampraanAccessControl.onlyRole,
    revertIf_bind]
  exact ⟨fun h => hother h.1, not_not.mpr hadmin, ht⟩

/-- The transaction is committed, and the account holds the role then. -/
theorem UnvettedGrant.grants (hs : CountedAdmins s) (hk : UnvettedGrant k s) :
    ∃ role ∈ administrativeRoles, ∃ account, s.accessControl.hasRole role account = false ∧
      ((machine governance).after k s).accessControl.hasRole role account = true ∧
        s.identityRegistry.isActive account = false := by
  obtain ⟨msg, call⟩ := k
  obtain ⟨role, hrole, account, rfl, hadmin, hnot, hinactive⟩ := hk
  obtain ⟨granted, hgranted⟩ := @exists_grantRole _ _ account _ hrole hadmin hs.lt
  have hrun : (machine governance).run (msg, .accessControl (.grantRole role account)) s =
      .ok { s with accessControl := granted } := bind_eq_ok.mpr ⟨granted, hgranted, rfl⟩
  have hset := (SampraanAccessControl.run_sets hgranted).2.hasRole role account
  refine ⟨role, hrole, account, hnot, ?_, hinactive⟩
  rw [Machine.after, hrun]
  exact hset.trans (if_pos ⟨rfl, rfl⟩)

/-- Only a grant by an administrator gives an account a role. -/
theorem grantRole_of_after {role : Bytes32} {account : Address}
    (hnot : s.accessControl.hasRole role account = false)
    (hheld : ((machine governance).after k s).accessControl.hasRole role account = true) :
    k.2 = .accessControl (.grantRole role account) ∧
      s.accessControl.hasRole defaultAdminRole k.1.sender = true := by
  obtain ⟨msg, call⟩ := k
  rcases (machine governance).after_eq (k := (msg, call)) (s := s) with hsame | hrun
  · rw [hsame, hnot] at hheld
    cases hheld
  have hdoes := run_does hrun
  cases call with
  | identityRegistry call =>
    rw [hdoes.2.1, hnot] at hheld
    cases hheld
  | assetRegistry call =>
    rw [hdoes.2.1, hnot] at hheld
    cases hheld
  | accessControl call =>
    obtain ⟨hallowed, hset⟩ := SampraanAccessControl.run_sets hdoes.1
    rw [hset.hasRole] at hheld
    split at hheld
    case isFalse =>
      rw [hnot] at hheld
      cases hheld
    case isTrue hsubject =>
      cases call with
      | grantRole role' account' =>
        obtain ⟨rfl, rfl⟩ := hsubject
        exact ⟨rfl, hallowed.1⟩
      | revokeRole role' account' => cases hheld
      | renounceRole role' confirmation => cases hheld

/-- Whatever is submitted after the deployment, committed or reverted. -/
theorem vettedGrants_iff (governance : Address)
    (h₀ : SampraanAccessControl.deploy deployer = .ok accessControl) (ks : List (Msg × Call)) :
    VettedGrants ((machine governance).trace ks (deploy accessControl)) ↔
      ∀ e ∈ (machine governance).trace ks (deploy accessControl), ¬ UnvettedGrant e.1 e.2.1 := by
  have htrace : ∀ e ∈ (machine governance).trace ks (deploy accessControl),
      CountedAdmins e.2.1 ∧ e.2.2 = (machine governance).after e.1 e.2.1 := fun e he =>
    Machine.trace_mem (countedAdmins_deploy h₀) (fun _ _ _ hs ht => hs.run ht) he
  constructor
  · intro hvetted e he hunvetted
    obtain ⟨hcounted, hafter⟩ := htrace e he
    obtain ⟨role, hrole, account, hnot, hheld, hinactive⟩ := hunvetted.grants hcounted
    have hactive := hvetted e he role hrole account hnot (hafter ▸ hheld)
    rw [hinactive] at hactive
    cases hactive
  · intro hall e he role hrole account hnot hheld
    rw [(htrace e he).2] at hheld
    obtain ⟨hcall, hadmin⟩ := grantRole_of_after hnot hheld
    by_contra hinactive
    exact hall e he ⟨role, hrole, account, hcall, hadmin, hnot, by simpa using hinactive⟩

/-! ### Sample transactions -/

abbrev sampleChain : Machine (Msg × Call) Chain Revert := machine 0x60

def sampleStart : Chain := deploy SampraanAccessControl.sampleState

/-- The deployer registers an identity, verifies it, and makes it identity administrator. -/
def vettedCalls : List (Msg × Call) :=
  [(SampraanAccessControl.sampleDeployer, .identityRegistry (.registerIdentity 0xB0B 1 2)),
    (SampraanAccessControl.sampleDeployer, .identityRegistry (.verifyIdentity 0xB0B "documents seen")),
    (SampraanAccessControl.sampleDeployer, .accessControl (.grantRole identityAdminRole 0xB0B))]

theorem vettedGrants_iff_sample :
    (∃ e ∈ sampleChain.trace vettedCalls sampleStart,
      e.2.2.accessControl.hasRole identityAdminRole 0xB0B = true) ∧
    (VettedGrants (sampleChain.trace vettedCalls sampleStart) ↔
      ∀ e ∈ sampleChain.trace vettedCalls sampleStart, ¬ UnvettedGrant e.1 e.2.1) := by
  refine ⟨?_, vettedGrants_iff 0x60 SampraanAccessControl.deploy_sampleDeployer vettedCalls⟩
  obtain ⟨e, he, hheld⟩ : ∃ e, (sampleChain.trace vettedCalls sampleStart)[2]? = some e ∧
      e.2.2.accessControl.hasRole identityAdminRole 0xB0B = true := ⟨_, rfl, rfl⟩
  exact ⟨e, List.mem_of_getElem? he, hheld⟩

/-- An account that was never registered becomes asset manager. -/
def unvettedCalls : List (Msg × Call) :=
  [(SampraanAccessControl.sampleDeployer, .accessControl (.grantRole assetManagerRole 0xB0B))]

theorem not_vettedGrants :
    SampraanAccessControl.deploy SampraanAccessControl.sampleDeployer =
      .ok SampraanAccessControl.sampleState ∧
    sampleStart.identityRegistry.isActive 0xB0B = false ∧
    ¬ VettedGrants (sampleChain.trace unvettedCalls sampleStart) := by
  refine ⟨rfl, rfl, fun hvetted => ?_⟩
  obtain ⟨e, he, hnot, hheld, hinactive⟩ : ∃ e,
      (sampleChain.trace unvettedCalls sampleStart)[0]? = some e ∧
        e.2.1.accessControl.hasRole assetManagerRole 0xB0B = false ∧
          e.2.2.accessControl.hasRole assetManagerRole 0xB0B = true ∧
            e.2.1.identityRegistry.isActive 0xB0B = false := ⟨_, rfl, rfl, rfl, rfl⟩
  have hactive := hvetted e (List.mem_of_getElem? he) assetManagerRole (by decide) 0xB0B hnot hheld
  rw [hinactive] at hactive
  cases hactive

end Sampraan.Contracts.Chain
