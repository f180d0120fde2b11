import Sampraan.Contracts.Governance
import Mathlib.Algebra.Order.Floor.Div

/-! Execution in the governance contract, whatever the targets do. -/

namespace Sampraan.Contracts.SampraanGovernance

open Library

variable {msg : Msg} {id : ℕ} {s t s₀ : SampraanGovernance}
  {accessControl admin : Address} {signers : List Address} {quorumPercent delaySeconds : ℕ}
  {log : List (((Msg × Call) × Behaviour (Msg × Call) Revert) ×
    Machine.Ledger (Msg × Call) SampraanGovernance × Machine.Ledger (Msg × Call) SampraanGovernance)}
  {w : Machine.Ledger (Msg × Call) SampraanGovernance}

/-! ### Deployment -/

structure SignersKept (s : SampraanGovernance) : Prop where
  mem : ∀ a, a ∈ s.signers ↔ s.isSigner a = true
  nodup : s.signers.Nodup

structure Untouched (s : SampraanGovernance) : Prop where
  count : s.proposalCount = 0
  approvals : ∀ id, s.proposalApprovals id = 0
  approvedBy : ∀ id a, s.proposalApprovedBy id a = false
  executed : ∀ id, s.proposalExecuted id = false
  cancelled : ∀ id, s.proposalCancelled id = false

theorem addSigners_ok (h : addSigners signers s = .ok t) (hs : SignersKept s) (hu : Untouched s) :
    SignersKept t ∧ Untouched t := by
  induction signers generalizing s with
  | nil =>
    obtain rfl := pure_eq_ok.mp h
    exact ⟨hs, hu⟩
  | cons signer signers ih =>
    simp only [addSigners, revertIf_bind, Bool.not_eq_true] at h
    obtain ⟨-, hnew, h⟩ := h
    refine ih h ⟨fun a => ?_, ?_⟩ ⟨hu.count, hu.approvals, hu.approvedBy, hu.executed, hu.cancelled⟩
    · by_cases ha : a = signer
      · simp [ha]
      · simp [ha, hs.mem]
    · refine List.nodup_append.mpr ⟨hs.nodup, List.nodup_singleton _, fun a ha b hb heq => ?_⟩
      rw [List.mem_singleton] at hb
      rw [heq, hb, hs.mem, hnew] at ha
      cases ha

theorem deploy_ok (h : deploy accessControl signers quorumPercent delaySeconds admin = .ok s) :
    SignersKept s ∧ Untouched s := by
  simp only [deploy, revertIf_bind] at h
  obtain ⟨-, -, -, h⟩ := h
  obtain ⟨t, ht, h⟩ := bind_eq_ok.mp h
  obtain ⟨u, hu, h⟩ := bind_eq_ok.mp h
  obtain rfl := pure_eq_ok.mp h
  obtain ⟨-, -, rfl⟩ := setQuorumPercent_ok hu
  obtain ⟨hsigners, huntouched⟩ := addSigners_ok ht
    ⟨fun a => iff_of_false List.not_mem_nil nofun, List.nodup_nil⟩
    ⟨rfl, fun _ => rfl, fun _ _ => rfl, fun _ => rfl, fun _ => rfl⟩
  exact ⟨⟨hsigners.mem, hsigners.nodup⟩, ⟨huntouched.count, huntouched.approvals,
    huntouched.approvedBy, huntouched.executed, huntouched.cancelled⟩⟩

/-! ### The invariant -/

def approvers (id : ℕ) (s : SampraanGovernance) : Set Address :=
  {a | a ∈ s.signers ∧ s.proposalApprovedBy id a = true}

structure Safe (s : SampraanGovernance) : Prop where
  signers : SignersKept s
  approvals : ∀ id, s.proposalApprovals id = (approvers id s).ncard
  exclusive : ∀ id, ¬ (s.proposalExecuted id = true ∧ s.proposalCancelled id = true)

theorem safe_deploy (h : deploy accessControl signers quorumPercent delaySeconds admin = .ok s) :
    Safe s := by
  obtain ⟨hsigners, hu⟩ := deploy_ok h
  refine ⟨hsigners, fun id => ?_, fun id hboth => ?_⟩
  · have hnone : approvers id s = ∅ := by
      ext a
      simp [approvers, hu.approvedBy]
    rw [hu.approvals, hnone, Set.ncard_empty]
  · rw [hu.executed] at hboth
    cases hboth.1

theorem approvers_addApproval (a : Address) (ha : a ∈ s.signers) :
    approvers id (s.addApproval id a) = insert a (approvers id s) := by
  ext b
  by_cases hb : b = a
  · simp [approvers, addApproval, hb, ha]
  · simp [approvers, addApproval, hb]

theorem approvers_addApproval_of_ne {id' : ℕ} (a : Address) (hid : id' ≠ id) :
    approvers id' (s.addApproval id a) = approvers id' s := by
  simp [approvers, addApproval, hid]

theorem Safe.approve (hs : Safe s) (hsigner : s.isSigner msg.sender = true)
    (hnew : s.proposalApprovedBy id msg.sender = false) : Safe (s.addApproval id msg.sender) := by
  refine ⟨⟨hs.signers.mem, hs.signers.nodup⟩, fun id' => ?_, hs.exclusive⟩
  by_cases hid : id' = id
  · subst hid
    have hfresh : msg.sender ∉ approvers id' s := fun h => by
      rw [approvers, Set.mem_ofPred, hnew] at h
      cases h.2
    rw [approvers_addApproval _ ((hs.signers.mem _).mpr hsigner),
      Set.ncard_insert_of_notMem hfresh, ← hs.approvals]
    simp [addApproval]
  · rw [approvers_addApproval_of_ne _ hid, ← hs.approvals]
    simp [addApproval, hid]

theorem Safe.markCancelled (hs : Safe s) (hpending : s.proposalExecuted id = false) :
    Safe (s.markCancelled id) := by
  refine ⟨⟨hs.signers.mem, hs.signers.nodup⟩, hs.approvals, fun id' hboth => ?_⟩
  by_cases hid : id' = id
  · rw [hid] at hboth
    exact absurd hboth.1 (by simp [SampraanGovernance.markCancelled, hpending])
  · exact hs.exclusive id' (by simpa [SampraanGovernance.markCancelled, hid] using hboth)

theorem Safe.markExecuted (hs : Safe s) (hlive : s.proposalCancelled id = false) :
    Safe (s.markExecuted id) := by
  refine ⟨⟨hs.signers.mem, hs.signers.nodup⟩, hs.approvals, fun id' hboth => ?_⟩
  by_cases hid : id' = id
  · rw [hid] at hboth
    exact absurd hboth.2 (by simp [SampraanGovernance.markExecuted, hlive])
  · exact hs.exclusive id' (by simpa [SampraanGovernance.markExecuted, hid] using hboth)

theorem Call.Does.safe {call : Call} (h : call.Does msg s t) (hs : Safe s) : Safe t := by
  obtain rfl := h.eq_effect
  cases call with
  | approve id reason =>
    obtain ⟨hsigner, -, -, hnew, -⟩ := h
    exact hs.approve hsigner hnew
  | cancel id reason =>
    obtain ⟨-, hpending, -, -⟩ := h
    exact hs.markCancelled hpending
  | execute id => exact hs.markExecuted h.1.live
  | _ => exact ⟨⟨hs.signers.mem, hs.signers.nodup⟩, hs.approvals, hs.exclusive⟩

theorem Call.Does.executed {call : Call} (h : call.Does msg s t)
    (hs : s.proposalExecuted id = true) : t.proposalExecuted id = true := by
  obtain rfl := h.eq_effect
  cases call with
  | execute id' =>
    by_cases hid : id = id'
    · simp [Call.effect, SampraanGovernance.markExecuted, hid]
    · simpa [Call.effect, SampraanGovernance.markExecuted, hid] using hs
  | _ => exact hs

/-! ### Every run -/

structure ExecutedInTime (msg : Msg) (id : ℕ) (s : SampraanGovernance) : Prop where
  quorum : (s.signers.length * s.quorumPercent) ⌈/⌉ 100 ≤ s.proposalApprovals id
  elapsed : s.proposalCreatedAt id + s.timelockDelaySeconds ≤ msg.timestamp

/-- The ledger has gone through the state, perhaps inside the call of a target. -/
def Visited (w : Machine.Ledger (Msg × Call) SampraanGovernance) (s : SampraanGovernance) : Prop :=
  s = w.1 ∨ ∃ e ∈ w.2, s = e.2.1 ∨ s = e.2.2

theorem Visited.of_run {C : Msg × Call → SampraanGovernance → Prop} {I : SampraanGovernance → Prop}
    (h₀ : I s₀) (hr : machine.Run C s₀ w.2 w.1)
    (hstep : ∀ k s t, I s → C k s → machine.run k s = .ok t → I t) (hs : Visited w s) : I s := by
  rcases hs with rfl | ⟨e, he, hs⟩
  · exact hr.invariant h₀ hstep
  · obtain ⟨hpre, hC, hrun⟩ := hr.mem h₀ hstep he
    rcases hs with rfl | rfl
    · exact hpre
    · exact hstep _ _ _ hpre hC hrun

/-- The ledger right after the own writes of an execution, where the target is called. -/
def begun (msg : Msg) (id : ℕ) (w : Machine.Ledger (Msg × Call) SampraanGovernance) :
    Machine.Ledger (Msg × Call) SampraanGovernance :=
  (w.1.markExecuted id, w.2 ++ [((msg, .execute id), w.1, w.1.markExecuted id)])

structure ExecutionSafe (w : Machine.Ledger (Msg × Call) SampraanGovernance) : Prop where
  once : ∀ id, w.2.Pairwise fun e f => ¬ (e.1.2 = .execute id ∧ f.1.2 = .execute id)
  exclusive : ∀ s, Visited w s → ∀ id,
    ¬ (s.proposalExecuted id = true ∧ s.proposalCancelled id = true)
  approvals : ∀ s, Visited w s → ∀ id, s.proposalApprovals id = (approvers id s).ncard
  inTime : ∀ e ∈ w.2, ∀ id, e.1.2 = .execute id → ExecutedInTime e.1.1 id e.2.1
  reverted : ∀ msg id behaviour e, Executable msg id w.1 →
    machine.foreign callsTarget behaviour (begun msg id w) = .error e →
      system.after ((msg, .execute id), behaviour) w = w
  executable : ∀ msg id, Executable msg id w.1 →
    system.run ((msg, .execute id), .returns) w = .ok (begun msg id w)

theorem run_execute (h : Executable msg id s) :
    machine.run (msg, .execute id) s = .ok (s.markExecuted id) := by
  obtain ⟨call, hcall⟩ := execute_commits h
  exact bind_eq_ok.mpr ⟨_, hcall, rfl⟩

theorem executed_once {h : List ((Msg × Call) × SampraanGovernance × SampraanGovernance)}
    (hr : machine.Run (fun _ _ => True) s₀ h s) (id : ℕ) :
    h.Pairwise fun e f => ¬ (e.1.2 = .execute id ∧ f.1.2 = .execute id) := by
  refine (hr.once (I := fun _ => True) (fun s => s.proposalExecuted id = true)
    (fun e => e.1.2 = .execute id) trivial (fun _ _ _ _ _ _ => trivial)
    (fun _ _ _ _ _ ht => (run_does ht).executed) ?_).1
  rintro ⟨⟨msg, call⟩, s, t⟩ - - hrun hcall
  have hdoes : call.Does msg s t := run_does hrun
  obtain rfl : call = .execute id := hcall
  obtain ⟨hexecutable, rfl⟩ := hdoes
  exact ⟨by simp [hexecutable.pending], by simp [markExecuted]⟩

theorem governance_execution_safe
    (h₀ : deploy accessControl signers quorumPercent delaySeconds admin = .ok s₀)
    (hr : system.Run (fun _ _ => True) (s₀, []) log w) : ExecutionSafe w := by
  have hlinear : machine.Run (fun _ _ => True) s₀ w.2 w.1 := hr.linear
  have hvisited : ∀ s, Visited w s → Safe s := fun s hs => hs.of_run (safe_deploy h₀) hlinear
    fun _ _ _ hs _ ht => (run_does ht).safe hs
  refine ⟨executed_once hlinear, fun s hs => (hvisited s hs).exclusive,
    fun s hs => (hvisited s hs).approvals, fun e he id hcall => ?_,
    fun msg id behaviour e hexecutable hreverts => ?_, fun msg id hexecutable => ?_⟩
  · have hrun := hlinear.mem (I := fun _ => True) trivial (fun _ _ _ _ _ _ => trivial) he
    have hdoes := run_does hrun.2.2
    rw [hcall] at hdoes
    refine ⟨?_, hdoes.1.elapsed⟩
    rw [Nat.ceilDiv_eq_add_pred_div]
    exact hdoes.1.quorum
  · have herror : system.run ((msg, .execute id), behaviour) w = .error e :=
      Machine.enter_reverts rfl (run_execute hexecutable) hreverts
    simp only [Machine.after, herror]
  · change machine.enter callsTarget _ _ w = _
    simp only [Machine.enter, run_execute hexecutable, callsTarget, Machine.foreign, if_true, begun]

def sampleSigner (n : ℕ) : Msg := { sender := .ofNat 160 (0x51 + n), timestamp := 1700000000 }

def sampleApprovals : List ((Msg × Call) × Behaviour (Msg × Call) Revert) :=
  [((sampleSigner 0, .propose .pauseRegistry 0xA55E7 0 0 0 "incident" (.version 1)), .returns),
    ((sampleSigner 0, .propose .unpauseRegistry 0xA55E7 0 0 0 "all clear" (.version 1)), .returns),
    ((sampleSigner 0, .approve 1 ""), .returns), ((sampleSigner 1, .approve 1 ""), .returns),
    ((sampleSigner 0, .approve 2 ""), .returns), ((sampleSigner 1, .approve 2 ""), .returns)]

/-- The target of the first execution tries to cancel and repeat it, and has the other one made. -/
theorem governance_execution_safe_sample : ∃ w : Machine.Ledger (Msg × Call) SampraanGovernance,
    w.1.proposalExecuted 1 = true ∧ w.1.proposalExecuted 2 = true ∧
      w.1.proposalCancelled 1 = false ∧ w.2.length = 8 ∧ ExecutionSafe w := by
  obtain ⟨s, hdeploy, ⟨log, w⟩, hexec, hfirst, hsecond, hlive, hlength⟩ : ∃ s,
      deploy 0xAC [0x51, 0x52, 0x53] 66 0 0xAD = .ok s ∧ ∃ r,
        system.exec (fun _ _ => True) (sampleApprovals ++ [((sampleSigner 2, .execute 1),
          .reenter (sampleSigner 1, .cancel 1 "too late") .returns
            (.reenter (sampleSigner 1, .execute 1) .returns
              (.reenter (sampleSigner 1, .execute 2) .returns .returns)))]) [] (s, []) = some r ∧
        r.2.1.proposalExecuted 1 = true ∧ r.2.1.proposalExecuted 2 = true ∧
          r.2.1.proposalCancelled 1 = false ∧ r.2.2.length = 8 :=
    ⟨_, rfl, _, rfl, rfl, rfl, rfl, rfl⟩
  exact ⟨w, hfirst, hsecond, hlive, hlength,
    governance_execution_safe hdeploy (Machine.exec_run .init hexec)⟩

end Sampraan.Contracts.SampraanGovernance
