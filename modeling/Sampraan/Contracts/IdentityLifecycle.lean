import Sampraan.Contracts.IdentityRegistry
import Sampraan.Library.Trail
import Mathlib.Data.Set.Function

/-! The life cycle of on-chain identities, over every run of the registry. -/

namespace Sampraan.Contracts.SampraanIdentityRegistry

open Library

variable {governance : Address} {roles : Roles} {sender : Address}
  {s t : SampraanIdentityRegistry}
  {h : List ((Roles × Msg × Call) × SampraanIdentityRegistry × SampraanIdentityRegistry)}

def status (s : SampraanIdentityRegistry) (wallet : Address) : IdentityStatus :=
  (s.identities wallet).status

/-! ### Logs -/

def endStatus (log : List LifecycleEvent) : IdentityStatus :=
  (log.getLast?.map LifecycleEvent.toStatus).getD .none

/-- The log starts from NONE, and each entry starts where the one before it ends. -/
structure Chained (log : List LifecycleEvent) : Prop where
  first : ∀ e ∈ log.head?, e.fromStatus = .none
  next : log.IsChain fun a b => a.toStatus = b.fromStatus

theorem chained_iff {log : List LifecycleEvent} :
    Chained log ↔ Trail LifecycleEvent.fromStatus LifecycleEvent.toStatus .none log :=
  ⟨fun h => ⟨h.first, h.next⟩, fun h => ⟨h.first, h.next⟩⟩

theorem Chained.append {log : List LifecycleEvent} {e : LifecycleEvent} (hlog : Chained log)
    (he : e.fromStatus = endStatus log) : Chained (log ++ [e]) :=
  chained_iff.mpr ((chained_iff.mp hlog).append he)

@[simp] theorem endStatus_append (log : List LifecycleEvent) (e : LifecycleEvent) :
    endStatus (log ++ [e]) = e.toStatus := trailEnd_append

/-! ### The invariant -/

structure WellFormed (s : SampraanIdentityRegistry) : Prop where
  zero : s.status 0 = .none
  owners : ∀ didDigest wallet, wallet ≠ 0 → (s.didOwners didDigest = wallet ↔
    s.status wallet ≠ .none ∧ (s.identities wallet).didDigest = didDigest)
  counted : ∀ wallet, s.lifecycleCount wallet = (s.lifecycle wallet).length
  chained : ∀ wallet, Chained (s.lifecycle wallet)
  current : ∀ wallet, endStatus (s.lifecycle wallet) = s.status wallet
  unlogged : ∀ wallet, s.status wallet = .none → s.lifecycle wallet = []
  hashes : ∀ wallet version, s.didDocumentHash wallet version ≠ 0 ↔
    1 ≤ version ∧ version ≤ s.didDocumentVersion wallet
  currentHash : ∀ wallet, 0 < s.didDocumentVersion wallet →
    s.currentDidDocumentHash wallet = s.didDocumentHash wallet (s.didDocumentVersion wallet)

theorem wellFormed_deploy : WellFormed deploy where
  zero := rfl
  owners _ wallet hwallet :=
    iff_of_false (fun h => hwallet (h.symm : wallet = 0)) fun h => h.1 rfl
  counted _ := rfl
  chained _ := ⟨by simp [deploy], by simp [deploy]⟩
  current _ := rfl
  unlogged _ _ := rfl
  hashes _ version := iff_of_false (fun h => h rfl) fun h => by
    have hle : version ≤ 0 := h.2
    omega
  currentHash _ h := absurd h (by simp [deploy])

structure Logs (wallet : Address) (s t : SampraanIdentityRegistry) : Prop
    extends Keeps wallet s t where
  log : ∃ e, t.lifecycle wallet = s.lifecycle wallet ++ [e] ∧ e.fromStatus = s.status wallet ∧
    e.toStatus = t.status wallet
  count : t.lifecycleCount wallet = s.lifecycleCount wallet + 1
  registered : t.status wallet ≠ .none

section

variable {wallet : Address}

theorem Keeps.status (h : Keeps wallet s t) {w : Address} (hw : w ≠ wallet) :
    t.status w = s.status w :=
  congrArg IdentityRecord.status (h.identities w hw)

theorem Registers.logs {didDigest : Bytes32} (h : Registers wallet didDigest s t)
    (hs : WellFormed s) : Logs wallet s t where
  toKeeps := h.toKeeps
  log := by
    obtain ⟨e, hlog, hfrom, hto⟩ := h.log
    exact ⟨e, hlog, hfrom.trans h.fresh.1.symm, hto.trans h.record.1.symm⟩
  count := by
    rw [h.count, hs.counted, hs.unlogged wallet h.fresh.1]
    rfl
  registered hnone := by
    rw [SampraanIdentityRegistry.status, h.record.1] at hnone
    cases hnone

theorem Transitions.status {newStatus : IdentityStatus} (h : Transitions wallet newStatus s t) :
    t.status wallet = newStatus :=
  congrArg IdentityRecord.status h.record

theorem Transitions.logs {newStatus : IdentityStatus} (h : Transitions wallet newStatus s t)
    (hnew : newStatus ≠ .none) : Logs wallet s t where
  toKeeps := h.toKeeps
  log := by
    obtain ⟨e, hlog, hfrom, hto⟩ := h.log
    exact ⟨e, hlog, hfrom, hto.trans h.status.symm⟩
  count := h.count
  registered := h.status ▸ hnew

theorem Documents.logs {documentHash : Bytes32} (h : Documents wallet documentHash s t) :
    Logs wallet s t where
  toKeeps := h.toKeeps
  log := by
    obtain ⟨e, hlog, hfrom, hto⟩ := h.log
    exact ⟨e, hlog, hfrom, by rw [hto, SampraanIdentityRegistry.status, h.record]⟩
  count := h.count
  registered hnone := by
    rw [SampraanIdentityRegistry.status, h.record] at hnone
    rcases h.status with h | h <;> rw [h] at hnone <;> cases hnone

theorem Logs.step (h : Logs wallet s t) (hs : WellFormed s) :
    (∀ w, t.lifecycleCount w = (t.lifecycle w).length) ∧ (∀ w, Chained (t.lifecycle w)) ∧
      (∀ w, endStatus (t.lifecycle w) = t.status w) ∧
        ∀ w, t.status w = .none → t.lifecycle w = [] := by
  obtain ⟨e, hlog, hfrom, hto⟩ := h.log
  refine ⟨fun w => ?_, fun w => ?_, fun w => ?_, fun w hnone => ?_⟩ <;>
    by_cases hw : w = wallet
  · rw [hw, hlog, h.count, hs.counted, List.length_append, List.length_singleton]
  · rw [h.lifecycleCount w hw, h.lifecycle w hw, hs.counted]
  · rw [hw, hlog]
    exact (hs.chained wallet).append (hfrom.trans (hs.current wallet).symm)
  · rw [h.lifecycle w hw]
    exact hs.chained w
  · rw [hw, hlog, endStatus_append, hto]
  · rw [h.lifecycle w hw, h.toKeeps.status hw, hs.current]
  · exact absurd (hw ▸ hnone) h.registered
  · rw [h.lifecycle w hw]
    exact hs.unlogged w (h.toKeeps.status hw ▸ hnone)

theorem owners_of_keeps (hs : WellFormed s) (howners : t.didOwners = s.didOwners)
    (hdigest : ∀ w, (t.identities w).didDigest = (s.identities w).didDigest)
    (hregistered : ∀ w, t.status w = .none ↔ s.status w = .none) :
    ∀ didDigest w, w ≠ 0 → (t.didOwners didDigest = w ↔
      t.status w ≠ .none ∧ (t.identities w).didDigest = didDigest) := by
  intro didDigest w hw
  rw [howners, hdigest, Ne, hregistered]
  exact hs.owners didDigest w hw

theorem KeepsDocuments.step (h : KeepsDocuments s t) (hs : WellFormed s) :
    (∀ w version, t.didDocumentHash w version ≠ 0 ↔
      1 ≤ version ∧ version ≤ t.didDocumentVersion w) ∧
    ∀ w, 0 < t.didDocumentVersion w →
      t.currentDidDocumentHash w = t.didDocumentHash w (t.didDocumentVersion w) := by
  rw [h.version, h.hash, h.current]
  exact ⟨hs.hashes, hs.currentHash⟩

theorem Registers.wellFormed {didDigest : Bytes32} (h : Registers wallet didDigest s t)
    (hs : WellFormed s) : WellFormed t := by
  obtain ⟨hcounted, hchained, hcurrent, hunlogged⟩ := (h.logs hs).step hs
  obtain ⟨hhashes, hcurrentHash⟩ := h.toKeepsDocuments.step hs
  refine ⟨?_, ?_, hcounted, hchained, hcurrent, hunlogged, hhashes, hcurrentHash⟩
  · rw [h.toKeeps.status h.wallet_ne.symm, hs.zero]
  · intro d w hw
    rw [h.owners]
    by_cases hwallet : w = wallet
    · subst hwallet
      rw [SampraanIdentityRegistry.status, h.record.1, h.record.2]
      by_cases hd : d = didDigest
      · simp [hd]
      · rw [Function.update_of_ne hd, hs.owners d w hw]
        exact iff_of_false (fun hreg => hreg.1 h.fresh.1) fun hreg => hd hreg.2.symm
    · rw [h.toKeeps.status hwallet, h.toKeeps.identities w hwallet]
      by_cases hd : d = didDigest
      · subst hd
        rw [Function.update_self]
        refine iff_of_false (fun heq => hwallet heq.symm) fun hreg => ?_
        rw [← hs.owners d w hw, h.fresh.2] at hreg
        exact hw hreg.symm
      · rw [Function.update_of_ne hd, hs.owners d w hw]

theorem Transitions.wellFormed {newStatus : IdentityStatus}
    (h : Transitions wallet newStatus s t) (hnew : newStatus ≠ .none)
    (hold : s.status wallet ≠ .none) (hs : WellFormed s) : WellFormed t := by
  obtain ⟨hcounted, hchained, hcurrent, hunlogged⟩ := (h.logs hnew).step hs
  obtain ⟨hhashes, hcurrentHash⟩ := h.toKeepsDocuments.step hs
  refine ⟨?_, owners_of_keeps hs h.owners (fun w => ?_) fun w => ?_, hcounted, hchained, hcurrent,
    hunlogged, hhashes, hcurrentHash⟩
  · have hne : (0 : Address) ≠ wallet := fun h => hold (h ▸ hs.zero)
    rw [h.toKeeps.status hne, hs.zero]
  · by_cases hw : w = wallet
    · rw [hw, h.record]
    · rw [h.toKeeps.identities w hw]
  · by_cases hw : w = wallet
    · rw [hw, h.status]
      exact iff_of_false hnew hold
    · rw [h.toKeeps.status hw]

theorem Documents.wellFormed {documentHash : Bytes32} (h : Documents wallet documentHash s t)
    (hs : WellFormed s) : WellFormed t := by
  obtain ⟨hcounted, hchained, hcurrent, hunlogged⟩ := h.logs.step hs
  have hidentities : ∀ w, t.identities w = s.identities w := by
    intro w
    by_cases hw : w = wallet
    · rw [hw, h.record]
    · exact h.toKeeps.identities w hw
  have hstatus : ∀ w, t.status w = s.status w := fun w =>
    congrArg IdentityRecord.status (hidentities w)
  refine ⟨(hstatus 0).trans hs.zero, owners_of_keeps hs h.owners
    (fun w => congrArg IdentityRecord.didDigest (hidentities w)) fun w => by rw [hstatus],
    hcounted, hchained, hcurrent, hunlogged, fun w v => ?_, fun w => ?_⟩
  · rw [h.hash, h.version]
    by_cases hw : w = wallet
    · subst hw
      rw [Function.update_self, Function.update_self]
      by_cases hv : v = s.didDocumentVersion w + 1
      · rw [hv, Function.update_self]
        exact iff_of_true h.hash_ne ⟨by omega, le_rfl⟩
      · rw [Function.update_of_ne hv, hs.hashes]
        omega
    · rw [Function.update_of_ne hw, Function.update_of_ne hw, hs.hashes]
  · rw [h.hash, h.version, h.current]
    by_cases hw : w = wallet
    · subst hw
      simp
    · simp only [Function.update_of_ne hw]
      exact hs.currentHash w

end

theorem Moves.ne_none {status newStatus : IdentityStatus}
    (h : Moves governance roles sender status newStatus) :
    status ≠ .none ∧ newStatus ≠ .none := by
  cases h with
  | deactivate h hnone hdone => exact ⟨hnone, nofun⟩
  | _ => exact ⟨nofun, nofun⟩

theorem Effect.wellFormed (h : Effect governance roles sender s t) (hs : WellFormed s) :
    WellFormed t := by
  cases h with
  | register wallet didDigest h hadmin => exact h.wellFormed hs
  | move wallet newStatus h hmove =>
    obtain ⟨hold, hnew⟩ := hmove.ne_none
    exact h.wellFormed hnew hold hs
  | document wallet documentHash h hcaller => exact h.wellFormed hs

/-! ### What a call does to a status -/

inductive Follows (governance sender : Address) : IdentityStatus → IdentityStatus → Prop
  | register : Follows governance sender .none .pending
  | verify : Follows governance sender .pending .verified
  | suspend : Follows governance sender .verified .suspended
  | reactivate : Follows governance sender .suspended .verified
  | deactivate {status : IdentityStatus} (hregistered : status ≠ .none)
    (hlive : status ≠ .deactivated) (h : sender = governance) :
    Follows governance sender status .deactivated

theorem Moves.follows {status newStatus : IdentityStatus}
    (h : Moves governance roles sender status newStatus) :
    Follows governance sender status newStatus := by
  cases h with
  | verify h => exact .verify
  | suspend h => exact .suspend
  | reactivate h => exact .reactivate
  | deactivate h hnone hdone => exact .deactivate hnone hdone h

theorem Effect.follows (h : Effect governance roles sender s t) (wallet : Address) :
    t.status wallet = s.status wallet ∨
      Follows governance sender (s.status wallet) (t.status wallet) := by
  cases h with
  | register w didDigest h hadmin =>
    by_cases hw : wallet = w
    · subst hw
      rw [status, status, h.fresh.1, h.record.1]
      exact .inr .register
    · exact .inl (h.toKeeps.status hw)
  | move w newStatus h hmove =>
    by_cases hw : wallet = w
    · subst hw
      rw [h.status]
      exact .inr hmove.follows
    · exact .inl (h.toKeeps.status hw)
  | document w documentHash h hcaller =>
    by_cases hw : wallet = w
    · subst hw
      exact .inl (congrArg IdentityRecord.status h.record)
    · exact .inl (h.toKeeps.status hw)

/-! ### Every run -/

theorem wellFormed_of_run {C : Roles × Msg × Call → SampraanIdentityRegistry → Prop}
    (hr : (machine governance).Run C deploy h s) : WellFormed s :=
  hr.invariant wellFormed_deploy fun _ _ _ hs _ ht => (run_effect ht).wellFormed hs

def didDigests (s : SampraanIdentityRegistry) : Set Bytes32 := {d | s.didOwners d ≠ 0}

def wallets (s : SampraanIdentityRegistry) : Set Address := {w | s.status w ≠ .none}

theorem WellFormed.bijection (hs : WellFormed s) :
    Set.BijOn s.didOwners s.didDigests s.wallets ∧
      Set.InvOn (fun w => (s.identities w).didDigest) s.didOwners s.didDigests s.wallets := by
  have hwallet : ∀ w ∈ s.wallets, w ≠ 0 := fun w hw h => hw (h ▸ hs.zero)
  have hinv : Set.InvOn (fun w => (s.identities w).didDigest) s.didOwners s.didDigests s.wallets :=
    ⟨fun d hd => ((hs.owners d _ hd).mp rfl).2,
      fun w hw => (hs.owners _ w (hwallet w hw)).mpr ⟨hw, rfl⟩⟩
  refine ⟨hinv.bijOn (fun d hd => ((hs.owners d _ hd).mp rfl).1) fun w hw => ?_, hinv⟩
  change s.didOwners (s.identities w).didDigest ≠ 0
  rw [(hs.owners _ w (hwallet w hw)).mpr ⟨hw, rfl⟩]
  exact hwallet w hw

structure IdentityLifecycle (governance : Address)
    (h : List ((Roles × Msg × Call) × SampraanIdentityRegistry × SampraanIdentityRegistry))
    (s : SampraanIdentityRegistry) : Prop where
  statuses : ∀ e ∈ h, ∀ wallet, e.2.2.status wallet = e.2.1.status wallet ∨
    Follows governance e.1.2.1.sender (e.2.1.status wallet) (e.2.2.status wallet)
  bijection : Set.BijOn s.didOwners s.didDigests s.wallets
  inverse : Set.InvOn (fun w => (s.identities w).didDigest) s.didOwners s.didDigests s.wallets
  counted : ∀ wallet, s.lifecycleCount wallet = (s.lifecycle wallet).length
  chained : ∀ wallet, Chained (s.lifecycle wallet)
  current : ∀ wallet, endStatus (s.lifecycle wallet) = s.status wallet
  hashes : ∀ wallet version, s.didDocumentHash wallet version ≠ 0 ↔
    1 ≤ version ∧ version ≤ s.didDocumentVersion wallet
  currentHash : ∀ wallet, 0 < s.didDocumentVersion wallet →
    s.currentDidDocumentHash wallet = s.didDocumentHash wallet (s.didDocumentVersion wallet)

theorem identity_lifecycle (hr : (machine governance).Run (fun _ _ => True) deploy h s) :
    IdentityLifecycle governance h s := by
  have hs := wellFormed_of_run hr
  refine ⟨fun e he wallet => ?_, hs.bijection.1, hs.bijection.2, hs.counted, hs.chained,
    hs.current, hs.hashes, hs.currentHash⟩
  have hrun := hr.mem (I := fun _ => True) trivial (fun _ _ _ _ _ _ => trivial) he
  exact (run_effect hrun.2.2).follows wallet

theorem identity_lifecycle_sample : ∃ h s, s.status 0xB0B = .deactivated ∧
    s.lifecycleCount 0xB0B = 4 ∧ IdentityLifecycle 0x60 h s := by
  let roles : Roles := fun role account => decide (role = identityAdminRole ∧ account = 0xA11CE)
  let admin : Msg := { sender := 0xA11CE, timestamp := 1700000000 }
  obtain ⟨⟨h, s⟩, hexec, hstatus, hcount⟩ : ∃ r, (machine 0x60).exec (fun _ _ => True)
      [(roles, admin, .registerIdentity 0xB0B 0xD1D 0x9B),
        (roles, admin, .updateDidDocumentHashFor 0xB0B 0xD0C "first document"),
        (roles, admin, .verifyIdentity 0xB0B "papers seen"),
        (roles, { admin with sender := 0x60 }, .governanceDeactivateIdentity 0xB0B "left")]
      [] deploy = some r ∧ r.2.status 0xB0B = .deactivated ∧ r.2.lifecycleCount 0xB0B = 4 :=
    ⟨_, rfl, rfl, rfl⟩
  exact ⟨h, s, hstatus, hcount, identity_lifecycle (Machine.exec_run .init hexec)⟩

end Sampraan.Contracts.SampraanIdentityRegistry
