import Sampraan.Contracts.AccessControl

/-! The role sets that the runs of the access control contract reach. -/

namespace Sampraan.Contracts.SampraanAccessControl

open Library

variable {deployer msg : Msg} {s₀ s t : SampraanAccessControl}
  {h : List ((Msg × Call) × SampraanAccessControl × SampraanAccessControl)}

/-! ### Auditors hold no administrative role -/

def administrativeRoles : List Bytes32 := [defaultAdminRole, identityAdminRole, assetManagerRole]

def Exclusive (s : SampraanAccessControl) : Prop :=
  ∀ account, s.hasRole auditorRole account = true → ∀ role ∈ administrativeRoles,
    s.hasRole role account = false

def grantsToAuditor (k : Msg × Call) (s : SampraanAccessControl) : Bool :=
  match k.2 with
  | .grantRole role account => role ∈ administrativeRoles && s.hasRole auditorRole account
  | _ => false

theorem auditorRole_notMem : auditorRole ∉ administrativeRoles := by decide

theorem Exclusive.sets {role : Bytes32} {account : Address} {held : Bool} (hs : Exclusive s)
    (ht : Sets role account held s t)
    (hgrant : held = true → role ∈ administrativeRoles → s.hasRole auditorRole account = false)
    (haudit : held = true → role = auditorRole → ∀ r ∈ administrativeRoles,
      s.hasRole r account = false) : Exclusive t := by
  intro a ha r hr
  have hne : r ≠ auditorRole := fun h => auditorRole_notMem (h ▸ hr)
  rw [ht.hasRole] at ha ⊢
  split
  case isTrue hset =>
    obtain ⟨rfl, rfl⟩ := hset
    rw [if_neg fun h => hne h.1.symm] at ha
    cases held with
    | false => rfl
    | true => exact absurd (hgrant rfl hr) (by simp [ha])
  case isFalse hset =>
    split at ha
    case isTrue haud =>
      obtain ⟨rfl, rfl⟩ := haud
      exact haudit ha rfl r hr
    case isFalse => exact hs a ha r hr

theorem Exclusive.step {k : Msg × Call} (hs : Exclusive s) (hk : grantsToAuditor k s = false)
    (ht : machine.run k s = .ok t) : Exclusive t := by
  obtain ⟨msg, call⟩ := k
  obtain ⟨hallowed, hset⟩ := run_sets ht
  cases call with
  | grantRole role account =>
    refine hs.sets hset (fun _ hrole => ?_) fun _ hrole r hr => ?_
    · change role ∈ administrativeRoles at hrole
      change s.hasRole auditorRole account = false
      simpa [grantsToAuditor, hrole] using hk
    · obtain ⟨hadmin, hidentity, hasset⟩ := hallowed.2 hrole
      simp only [administrativeRoles, List.mem_cons, List.not_mem_nil, or_false] at hr
      rcases hr with rfl | rfl | rfl
      · exact hadmin
      · exact hidentity
      · exact hasset
  | revokeRole role account =>
    exact hs.sets hset (fun hheld => by cases hheld) fun hheld => by cases hheld
  | renounceRole role callerConfirmation =>
    exact hs.sets hset (fun hheld => by cases hheld) fun hheld => by cases hheld

/-- As long as no auditor is given an administrative role, no account holds both. -/
theorem roles_exclusive (h₀ : deploy deployer = .ok s₀)
    (hr : machine.Run (fun k s => grantsToAuditor k s = false) s₀ h s) : Exclusive s := by
  refine hr.invariant (I := Exclusive) (fun account ha => ?_) fun k s t hs hk ht => hs.step hk ht
  obtain ⟨-, hrole⟩ := ((deploy_ok h₀).2 _ _).mp ha
  exact absurd hrole (by decide)

def sampleDeployer : Msg := { sender := 0xA11CE, timestamp := 1700000000 }

def sampleState : SampraanAccessControl :=
  (deploy sampleDeployer).toOption.get (by decide)

theorem deploy_sampleDeployer : deploy sampleDeployer = .ok sampleState := by rfl

theorem roles_exclusive_sample : ∃ h s,
    machine.Run (fun k s => grantsToAuditor k s = false) sampleState h s ∧
      s.hasRole auditorRole 0xB0B = true ∧ s.hasRole identityAdminRole 0xCA401 = true ∧
        Exclusive s := by
  obtain ⟨⟨h, s⟩, hexec, hauditor, hidentity⟩ : ∃ r, machine.exec
      (fun k s => grantsToAuditor k s = false)
      [(sampleDeployer, .grantRole auditorRole 0xB0B),
        (sampleDeployer, .grantRole identityAdminRole 0xCA401)] [] sampleState = some r ∧
      r.2.hasRole auditorRole 0xB0B = true ∧ r.2.hasRole identityAdminRole 0xCA401 = true :=
    ⟨_, rfl, rfl, rfl⟩
  have hrun := Machine.exec_run .init hexec
  exact ⟨h, s, hrun, hauditor, hidentity, roles_exclusive deploy_sampleDeployer hrun⟩

/-- An auditor is made identity administrator: only the opposite order is refused. -/
theorem not_exclusive : ∃ s, machine.Reachable sampleState s ∧ ¬ Exclusive s := by
  obtain ⟨⟨h, s⟩, hexec, hauditor, hidentity⟩ : ∃ r, machine.exec (fun _ _ => True)
      [(sampleDeployer, .grantRole auditorRole 0xB0B),
        (sampleDeployer, .grantRole identityAdminRole 0xB0B)] [] sampleState = some r ∧
      r.2.hasRole auditorRole 0xB0B = true ∧ r.2.hasRole identityAdminRole 0xB0B = true :=
    ⟨_, rfl, rfl, rfl⟩
  refine ⟨s, (Machine.exec_run .init hexec).reachable, fun hs => ?_⟩
  have hnone := hs 0xB0B hauditor identityAdminRole (by decide)
  rw [hidentity] at hnone
  cases hnone

/-! ### The last administrator -/

def adminHolders (s : SampraanAccessControl) : Set Address :=
  {account | s.hasRole defaultAdminRole account = true}

@[simp] theorem mem_adminHolders {account : Address} :
    account ∈ adminHolders s ↔ s.hasRole defaultAdminRole account = true :=
  Iff.rfl

theorem Sets.adminHolders_grant {account : Address}
    (h : Sets defaultAdminRole account true s t) :
    adminHolders t = insert account (adminHolders s) := by
  ext a
  by_cases ha : a = account <;> simp [h.hasRole, ha]

theorem Sets.adminHolders_revoke {account : Address}
    (h : Sets defaultAdminRole account false s t) :
    adminHolders t = adminHolders s \ {account} := by
  ext a
  by_cases ha : a = account <;> simp [h.hasRole, ha]

theorem Sets.adminHolders_other {role : Bytes32} {account : Address} {held : Bool}
    (h : Sets role account held s t) (hrole : role ≠ defaultAdminRole) :
    adminHolders t = adminHolders s := by
  ext a
  simp [h.hasRole, hrole.symm]

theorem Sets.counted {role : Bytes32} {account : Address} {held : Bool}
    (h : Sets role account held s t) (hs : s.adminHolderCount = (adminHolders s).ncard) :
    t.adminHolderCount = (adminHolders t).ncard := by
  have hcounts := h.counts
  by_cases hrole : role = defaultAdminRole
  case neg =>
    simp only [hrole, false_and, if_false] at hcounts
    rw [h.adminHolders_other hrole, ← hs]
    omega
  subst hrole
  by_cases hheld : account ∈ adminHolders s
  · simp only [mem_adminHolders.mp hheld, and_self, if_true] at hcounts
    cases held with
    | true =>
      rw [h.adminHolders_grant, Set.insert_eq_of_mem hheld, ← hs]
      simp only [and_self, if_true] at hcounts
      omega
    | false =>
      rw [h.adminHolders_revoke, Set.ncard_sdiff_singleton_of_mem hheld, ← hs]
      simp only [Bool.false_eq_true, and_false, if_false] at hcounts
      omega
  · have hnot : s.hasRole defaultAdminRole account = false := by simpa using hheld
    simp only [hnot, Bool.false_eq_true, and_false, if_false] at hcounts
    cases held with
    | true =>
      rw [h.adminHolders_grant, Set.ncard_insert_of_notMem hheld, ← hs]
      simp only [and_self, if_true] at hcounts
      omega
    | false =>
      rw [h.adminHolders_revoke, Set.sdiff_singleton_eq_self hheld, ← hs]
      simpa using hcounts

/-- The only holder of the admin role renounces it. -/
def LastAdminRenounces (k : Msg × Call) (s : SampraanAccessControl) : Prop :=
  ∃ callerConfirmation, k.2 = .renounceRole defaultAdminRole callerConfirmation ∧
    adminHolders s = {k.1.sender}

structure Protected (s : SampraanAccessControl) : Prop where
  counted : s.adminHolderCount = (adminHolders s).ncard
  held : 1 ≤ (adminHolders s).ncard

theorem Protected.step {k : Msg × Call} (hs : Protected s) (hk : ¬ LastAdminRenounces k s)
    (ht : machine.run k s = .ok t) : Protected t := by
  obtain ⟨msg, call⟩ := k
  obtain ⟨hallowed, hset⟩ := run_sets ht
  refine ⟨hset.counted hs.counted, Nat.one_le_iff_ne_zero.mpr ?_⟩
  refine (Set.ncard_pos (Set.toFinite _)).mpr ?_ |>.ne'
  obtain ⟨holder, hholder⟩ := (Set.ncard_pos (Set.toFinite _)).mp hs.held
  by_cases hrole : call.subject.1 = defaultAdminRole
  case neg => exact ⟨holder, (hset.adminHolders_other hrole).symm ▸ hholder⟩
  rw [hrole] at hset
  cases call with
  | grantRole role account => exact ⟨account, hset.adminHolders_grant ▸ Set.mem_insert _ _⟩
  | revokeRole role account =>
    obtain rfl : role = defaultAdminRole := hrole
    rw [hset.adminHolders_revoke]
    by_cases hheld : account ∈ adminHolders s
    · have hmany := hallowed.2 rfl hheld
      rw [hs.counted, Set.one_lt_ncard_iff_nontrivial] at hmany
      exact hmany.exists_ne account
    · refine ⟨holder, hholder, fun h => hheld ?_⟩
      obtain rfl : holder = account := h
      exact hholder
  | renounceRole role callerConfirmation =>
    obtain rfl : role = defaultAdminRole := hrole
    obtain rfl : callerConfirmation = msg.sender := hallowed
    rw [hset.adminHolders_revoke]
    by_contra hnone
    refine hk ⟨msg.sender, rfl, Set.eq_singleton_iff_nonempty_unique_mem.mpr
      ⟨⟨holder, hholder⟩, fun a ha => ?_⟩⟩
    by_contra hne
    exact hnone ⟨a, ha, hne⟩

/-- As long as the last administrator does not renounce the role, the counter is the number of
administrators and that number is not zero. -/
theorem admins_protected (h₀ : deploy deployer = .ok s₀)
    (hr : machine.Run (fun k s => ¬ LastAdminRenounces k s) s₀ h s) :
    s.adminHolderCount = (adminHolders s).ncard ∧ 1 ≤ (adminHolders s).ncard := by
  obtain ⟨hcount, hroles⟩ := deploy_ok h₀
  have hholders : adminHolders s₀ = {deployer.sender} := by
    ext a
    simp [hroles]
  have hs := hr.invariant (I := Protected) ⟨by simp [hcount, hholders], by simp [hholders]⟩
    fun k s t hs hk ht => hs.step hk ht
  exact ⟨hs.counted, hs.held⟩

theorem admins_protected_sample : ∃ h s,
    machine.Run (fun k s => ¬ LastAdminRenounces k s) sampleState h s ∧
      s.hasRole defaultAdminRole sampleDeployer.sender = false ∧
        s.adminHolderCount = (adminHolders s).ncard ∧ 1 ≤ (adminHolders s).ncard := by
  obtain ⟨s₁, hgrant, s₂, hrenounce, hsecond, hfirst⟩ : ∃ s₁, machine.run
      (sampleDeployer, .grantRole defaultAdminRole 0xB0B) sampleState = .ok s₁ ∧ ∃ s₂, machine.run
        (sampleDeployer, .renounceRole defaultAdminRole sampleDeployer.sender) s₁ = .ok s₂ ∧
          s₁.hasRole defaultAdminRole 0xB0B = true ∧
            s₂.hasRole defaultAdminRole sampleDeployer.sender = false := ⟨_, rfl, _, rfl, rfl, rfl⟩
  obtain ⟨h, hrun⟩ : ∃ h, machine.Run (fun k s => ¬ LastAdminRenounces k s) sampleState h s₂ := by
    refine ⟨_, (Machine.Run.init.call ?_ hgrant).call ?_ hrenounce⟩
    · rintro ⟨_, hcall, -⟩
      cases hcall
    · rintro ⟨_, -, hholders⟩
      have hmem : (0xB0B : Address) ∈ adminHolders s₁ := hsecond
      rw [hholders, Set.mem_singleton_iff] at hmem
      exact absurd hmem (by decide)
  exact ⟨_, s₂, hrun, hfirst, admins_protected deploy_sampleDeployer hrun⟩

/-- The deployer renounces the admin role, and nobody is left to grant it. -/
theorem not_protected : ∃ s, machine.Reachable sampleState s ∧
    ¬ (s.adminHolderCount = (adminHolders s).ncard ∧ 1 ≤ (adminHolders s).ncard) := by
  obtain ⟨s, hrenounce, hcount⟩ : ∃ s, machine.run
      (sampleDeployer, .renounceRole defaultAdminRole sampleDeployer.sender) sampleState = .ok s ∧
        s.adminHolderCount = 0 := ⟨_, rfl, rfl⟩
  refine ⟨s, ⟨_, Machine.Run.init.call trivial hrenounce⟩, fun ⟨hcounted, hheld⟩ => ?_⟩
  rw [← hcounted, hcount] at hheld
  exact absurd hheld (by decide)

end Sampraan.Contracts.SampraanAccessControl
