import Sampraan.Library.Machine
import Mathlib.Algebra.Group.Nat.Defs
import Mathlib.Data.Fintype.EquivFin
import Mathlib.Logic.Function.Basic

/-! Words, messages and checked arithmetic of the contracts. -/

namespace Sampraan.Contracts

open Library

abbrev Address := BitVec 160

abbrev Bytes32 := BitVec 256

instance finite {n : ℕ} : Finite (BitVec n) :=
  .of_injective BitVec.toFin fun _ _ h => BitVec.eq_of_toFin_eq h

structure Msg where
  sender : Address
  timestamp : ℕ
  deriving DecidableEq

def uint64 (n : ℕ) : ℕ := n % 2 ^ 64

inductive Revert where
  | panicOverflow
  | functionNotFound
  | targetReverted
  | accessControlUnauthorizedAccount (account : Address) (neededRole : Bytes32)
  | accessControlBadConfirmation
  | auditorRoleNotExclusive
  | lastAdminProtection
  | notIdentityAdmin
  | notGovernance
  | alreadyRegistered
  | identityNotRegistered
  | sameStatus
  | invalidStatus
  | zeroAddress
  | zeroDidDigest
  | zeroReason
  | notPending
  | emptyDocumentHash
  | erc721InvalidReceiver (receiver : Address)
  | erc721InvalidSender (sender : Address)
  | erc721NonexistentToken (tokenId : ℕ)
  | erc721IncorrectOwner (sender : Address) (tokenId : ℕ) (owner : Address)
  | notAssetManager
  | notAuthorizedOperator
  | zeroDigest
  | assetAlreadyRegistered
  | assetNotRegistered
  | invalidAssetStatus
  | sameAssetStatus
  | assetNotActive
  | custodianNotActive
  | recipientNotActive
  | custodyTransferForbidden
  | paused
  | assetDisputed
  | notAuditor
  | notAdmin
  | disputeNotOpen
  | emptyEvidenceHash
  | notSigner
  | notGovernanceAdmin
  | zeroSigners
  | quorumOutOfRange
  | alreadyApproved
  | alreadyExecuted
  | alreadyCancelled
  | notApprovedEnough
  | timelockNotElapsed
  | proposalNotPending
  | invalidKind
  | invalidTarget
  deriving DecidableEq

abbrev Result := Except Revert

def revertIf (p : Prop) [Decidable p] (e : Revert) : Result Unit :=
  if p then .error e else .ok ()

def checkedAdd (a b : ℕ) : Result ℕ :=
  if a + b < 2 ^ 256 then .ok (a + b) else .error .panicOverflow

def checkedSub (a b : ℕ) : Result ℕ :=
  if b ≤ a then .ok (a - b) else .error .panicOverflow

section

variable {α β : Type} {p : Prop} [Decidable p] {e : Revert} {b : β}

@[simp] theorem revertIf_bind {k : Unit → Result β} :
    (revertIf p e >>= k) = .ok b ↔ ¬ p ∧ k () = .ok b := by
  unfold revertIf
  split
  · exact iff_of_false (fun h => by cases h) fun h => h.1 ‹_›
  · exact (and_iff_right ‹_›).symm

@[simp] theorem checkedAdd_bind {k : ℕ → Result β} {x y : ℕ} :
    (checkedAdd x y >>= k) = .ok b ↔ x + y < 2 ^ 256 ∧ k (x + y) = .ok b := by
  unfold checkedAdd
  split
  · exact (and_iff_right ‹_›).symm
  · exact iff_of_false (fun h => by cases h) fun h => ‹¬ _› h.1

@[simp] theorem checkedSub_bind {k : ℕ → Result β} {x y : ℕ} :
    (checkedSub x y >>= k) = .ok b ↔ y ≤ x ∧ k (x - y) = .ok b := by
  unfold checkedSub
  split
  · exact (and_iff_right ‹_›).symm
  · exact iff_of_false (fun h => by cases h) fun h => ‹¬ _› h.1

theorem revertIf_bind_error {e' : Revert} {k : Unit → Result β} :
    (revertIf p e >>= k) = .error e' ↔ p ∧ e = e' ∨ ¬ p ∧ k () = .error e' := by
  unfold revertIf
  by_cases hp : p
  · rw [if_pos hp]
    exact ⟨fun h => .inl ⟨hp, Except.error.inj h⟩, fun h => by
      rcases h with ⟨-, rfl⟩ | ⟨hn, -⟩
      · rfl
      · exact absurd hp hn⟩
  · rw [if_neg hp]
    exact ⟨fun h => .inr ⟨hp, h⟩, fun h => h.elim (fun h => absurd h.1 hp) fun h => h.2⟩

theorem bind_eq_ok {x : Result α} {k : α → Result β} :
    (x >>= k) = .ok b ↔ ∃ a, x = .ok a ∧ k a = .ok b := by
  cases x with
  | error e => exact iff_of_false (fun h => by cases h) (by simp)
  | ok a => exact ⟨fun h => ⟨a, rfl, h⟩, fun ⟨a', ha, h⟩ => by cases ha; exact h⟩

@[simp] theorem pure_eq_ok {a b : α} : (pure a : Result α) = .ok b ↔ a = b :=
  Except.ok.injEq a b ▸ Iff.rfl

end

end Sampraan.Contracts
