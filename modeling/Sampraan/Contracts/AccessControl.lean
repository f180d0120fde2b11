import Sampraan.Contracts.Evm
import Mathlib.Data.Set.Card

/-! `SampraanAccessControl.sol`, over the OpenZeppelin AccessControl that it inherits. -/

namespace Sampraan.Contracts

open Library

def defaultAdminRole : Bytes32 := 0

/-- keccak256("IDENTITY_ADMIN_ROLE") -/
def identityAdminRole : Bytes32 :=
  0x4f954bed0529967842be3cf5f1133c59c9d02d41844654c1e7ec00ff708ceff8

/-- keccak256("ASSET_MANAGER_ROLE") -/
def assetManagerRole : Bytes32 :=
  0xb1fadd3142ab2ad7f1337ea4d97112bcc8337fc11ce5b20cb04ad038adf99819

/-- keccak256("AUDITOR_ROLE") -/
def auditorRole : Bytes32 := 0x59a1c48e5837ad7a7f3dcedcbe129bf3249ec4fbf651fd4f5e2600ead39fe2f5

@[ext] structure SampraanAccessControl where
  hasRole : Bytes32 → Address → Bool
  adminHolderCount : ℕ

namespace SampraanAccessControl

/-! ### The inherited AccessControl -/

/-- The admin role of every role: `_setRoleAdmin` is never called. -/
def getRoleAdmin (_role : Bytes32) : Bytes32 := defaultAdminRole

def onlyRole (msg : Msg) (role : Bytes32) (s : SampraanAccessControl) : Result Unit :=
  revertIf (¬ s.hasRole role msg.sender) (.accessControlUnauthorizedAccount msg.sender role)

def setRole (role : Bytes32) (account : Address) (held : Bool) (s : SampraanAccessControl) :
    SampraanAccessControl :=
  { s with
    hasRole := Function.update s.hasRole role (Function.update (s.hasRole role) account held) }

/-- The inherited `_grantRole`. -/
def baseGrantRole (role : Bytes32) (account : Address) (s : SampraanAccessControl) :
    Bool × SampraanAccessControl :=
  if s.hasRole role account then (false, s) else (true, s.setRole role account true)

/-- The inherited `_revokeRole`. -/
def baseRevokeRole (role : Bytes32) (account : Address) (s : SampraanAccessControl) :
    Bool × SampraanAccessControl :=
  if s.hasRole role account then (true, s.setRole role account false) else (false, s)

/-! ### The contract -/

/-- The overriding `_grantRole`. -/
def innerGrantRole (role : Bytes32) (account : Address) (s : SampraanAccessControl) :
    Result SampraanAccessControl :=
  let (newlyGranted, s) := baseGrantRole role account s
  if newlyGranted ∧ role = defaultAdminRole then do
    let adminHolderCount ← checkedAdd s.adminHolderCount 1
    pure { s with adminHolderCount := adminHolderCount }
  else pure s

/-- The overriding `_revokeRole`. -/
def innerRevokeRole (role : Bytes32) (account : Address) (s : SampraanAccessControl) :
    Result SampraanAccessControl :=
  let (revoked, s) := baseRevokeRole role account s
  if revoked ∧ role = defaultAdminRole then do
    let adminHolderCount ← checkedSub s.adminHolderCount 1
    pure { s with adminHolderCount := adminHolderCount }
  else pure s

/-- Declared in the source and called from nowhere. -/
def assertExclusivity (role : Bytes32) (account : Address) (granting : Bool)
    (s : SampraanAccessControl) : Result Unit :=
  let adminish := role = defaultAdminRole ∨ role = identityAdminRole ∨ role = assetManagerRole
  if ¬ adminish then pure ()
  else
    let hasAuditor := s.hasRole auditorRole account
    revertIf (granting ∧ hasAuditor) .auditorRoleNotExclusive

def grantRole (msg : Msg) (role : Bytes32) (account : Address) (s : SampraanAccessControl) :
    Result SampraanAccessControl := do
  revertIf (role = auditorRole ∧
    (s.hasRole defaultAdminRole account ∨ s.hasRole identityAdminRole account ∨
      s.hasRole assetManagerRole account)) .auditorRoleNotExclusive
  onlyRole msg (getRoleAdmin role) s
  innerGrantRole role account s

def revokeRole (msg : Msg) (role : Bytes32) (account : Address) (s : SampraanAccessControl) :
    Result SampraanAccessControl := do
  revertIf (role = defaultAdminRole ∧ s.hasRole defaultAdminRole account ∧ s.adminHolderCount ≤ 1)
    .lastAdminProtection
  onlyRole msg (getRoleAdmin role) s
  innerRevokeRole role account s

/-- Inherited, and not overridden. -/
def renounceRole (msg : Msg) (role : Bytes32) (callerConfirmation : Address)
    (s : SampraanAccessControl) : Result SampraanAccessControl := do
  revertIf (callerConfirmation ≠ msg.sender) .accessControlBadConfirmation
  innerRevokeRole role callerConfirmation s

def deploy (msg : Msg) : Result SampraanAccessControl := do
  let s : SampraanAccessControl := { hasRole := fun _ _ => false, adminHolderCount := 0 }
  let s ← innerGrantRole defaultAdminRole msg.sender s
  let s ← innerGrantRole identityAdminRole msg.sender s
  innerGrantRole assetManagerRole msg.sender s

inductive Call where
  | grantRole (role : Bytes32) (account : Address)
  | revokeRole (role : Bytes32) (account : Address)
  | renounceRole (role : Bytes32) (callerConfirmation : Address)
  deriving DecidableEq

def run (msg : Msg) : Call → SampraanAccessControl → Result SampraanAccessControl
  | .grantRole role account => grantRole msg role account
  | .revokeRole role account => revokeRole msg role account
  | .renounceRole role callerConfirmation => renounceRole msg role callerConfirmation

def machine : Machine (Msg × Call) SampraanAccessControl Revert where
  run k := run k.1 k.2

/-! ### What a call does -/

variable {msg : Msg} {role : Bytes32} {account : Address} {s t : SampraanAccessControl}

theorem hasRole_setRole {held : Bool} {r : Bytes32} {a : Address} :
    (s.setRole role account held).hasRole r a =
      if r = role ∧ a = account then held else s.hasRole r a := by
  by_cases hr : r = role
  · subst hr
    by_cases ha : a = account
    · subst ha
      simp [setRole]
    · simp [setRole, ha]
  · simp [setRole, hr]

structure Sets (role : Bytes32) (account : Address) (held : Bool) (s t : SampraanAccessControl) :
    Prop where
  hasRole : ∀ r a, t.hasRole r a = if r = role ∧ a = account then held else s.hasRole r a
  counts : t.adminHolderCount + (if role = defaultAdminRole ∧ s.hasRole role account then 1 else 0) =
    s.adminHolderCount + (if role = defaultAdminRole ∧ held = true then 1 else 0)

theorem innerGrantRole_sets (h : innerGrantRole role account s = .ok t) :
    Sets role account true s t := by
  by_cases hheld : s.hasRole role account = true
  · have ht : s = t := by simpa [innerGrantRole, baseGrantRole, hheld] using h
    subst ht
    refine ⟨fun r a => ?_, by simp [hheld]⟩
    split
    case isTrue h => rw [h.1, h.2, hheld]
    case isFalse => rfl
  · by_cases hrole : role = defaultAdminRole
    · simp only [innerGrantRole, baseGrantRole, hrole] at h
      simp only [hrole] at hheld ⊢
      simp only [hheld, Bool.false_eq_true, if_false, if_true, and_self, checkedAdd_bind,
        pure_eq_ok] at h
      obtain ⟨-, rfl⟩ := h
      exact ⟨fun r a => hasRole_setRole, by simp [hheld, setRole]⟩
    · have ht : s.setRole role account true = t := by
        simpa [innerGrantRole, baseGrantRole, hheld, hrole] using h
      subst ht
      exact ⟨fun r a => hasRole_setRole, by simp [hrole, setRole]⟩

theorem innerRevokeRole_sets (h : innerRevokeRole role account s = .ok t) :
    Sets role account false s t := by
  by_cases hheld : s.hasRole role account = true
  · by_cases hrole : role = defaultAdminRole
    · simp only [innerRevokeRole, baseRevokeRole, hrole] at h
      simp only [hrole] at hheld ⊢
      simp only [hheld, if_true, and_self, checkedSub_bind, pure_eq_ok] at h
      obtain ⟨hle, rfl⟩ := h
      refine ⟨fun r a => hasRole_setRole, ?_⟩
      simp only [setRole] at hle
      simp only [hheld, setRole, and_self, if_true, Bool.false_eq_true, and_false, if_false]
      omega
    · have ht : s.setRole role account false = t := by
        simpa [innerRevokeRole, baseRevokeRole, hheld, hrole] using h
      subst ht
      exact ⟨fun r a => hasRole_setRole, by simp [hrole, setRole]⟩
  · have ht : s = t := by simpa [innerRevokeRole, baseRevokeRole, hheld] using h
    subst ht
    refine ⟨fun r a => ?_, by simp [hheld]⟩
    split
    case isTrue h => rw [h.1, h.2]; simpa using hheld
    case isFalse => rfl

def Call.subject : Call → Bytes32 × Address × Bool
  | .grantRole role account => (role, account, true)
  | .revokeRole role account => (role, account, false)
  | .renounceRole role callerConfirmation => (role, callerConfirmation, false)

def Call.Allowed (msg : Msg) (call : Call) (s : SampraanAccessControl) : Prop :=
  match call with
  | .grantRole role account =>
    s.hasRole defaultAdminRole msg.sender = true ∧
      (role = auditorRole → s.hasRole defaultAdminRole account = false ∧
        s.hasRole identityAdminRole account = false ∧ s.hasRole assetManagerRole account = false)
  | .revokeRole role account =>
    s.hasRole defaultAdminRole msg.sender = true ∧
      (role = defaultAdminRole → s.hasRole defaultAdminRole account = true →
        1 < s.adminHolderCount)
  | .renounceRole _ callerConfirmation => callerConfirmation = msg.sender

theorem run_sets {call : Call} (h : run msg call s = .ok t) :
    call.Allowed msg s ∧ Sets call.subject.1 call.subject.2.1 call.subject.2.2 s t := by
  cases call with
  | grantRole role account =>
    simp only [run, grantRole, onlyRole, revertIf_bind, not_not] at h
    obtain ⟨hexclusive, hadmin, hset⟩ := h
    refine ⟨⟨hadmin, fun hrole => ?_⟩, innerGrantRole_sets hset⟩
    simpa [hrole] using hexclusive
  | revokeRole role account =>
    simp only [run, revokeRole, onlyRole, revertIf_bind, not_not] at h
    obtain ⟨hlast, hadmin, hset⟩ := h
    exact ⟨⟨hadmin, fun hrole hheld => by simpa [hrole, hheld] using hlast⟩,
      innerRevokeRole_sets hset⟩
  | renounceRole role callerConfirmation =>
    simp only [run, renounceRole, revertIf_bind, not_not] at h
    exact ⟨h.1, innerRevokeRole_sets h.2⟩

/-- The deployer starts as the one holder of the three administrative roles. -/
theorem deploy_ok (h : deploy msg = .ok s) : s.adminHolderCount = 1 ∧ ∀ r a, s.hasRole r a = true ↔
    a = msg.sender ∧ (r = defaultAdminRole ∨ r = identityAdminRole ∨ r = assetManagerRole) := by
  simp only [deploy, bind_eq_ok] at h
  obtain ⟨s₁, h₁, s₂, h₂, h₃⟩ := h
  have hset₁ := innerGrantRole_sets h₁
  have hset₂ := innerGrantRole_sets h₂
  have hset₃ := innerGrantRole_sets h₃
  constructor
  · have hidentity : identityAdminRole ≠ defaultAdminRole := by decide
    have hasset : assetManagerRole ≠ defaultAdminRole := by decide
    have hcount₁ := hset₁.counts
    have hcount₂ := hset₂.counts
    have hcount₃ := hset₃.counts
    simp only [hidentity, hasset, false_and, if_false, and_self, if_true, Bool.false_eq_true,
      and_false] at hcount₁ hcount₂ hcount₃
    omega
  · intro r a
    rw [hset₃.hasRole, hset₂.hasRole, hset₁.hasRole]
    by_cases ha : a = msg.sender
    · simp only [ha, and_true, true_and]
      split_ifs <;> simp_all
    · simp [ha]

end SampraanAccessControl

end Sampraan.Contracts
