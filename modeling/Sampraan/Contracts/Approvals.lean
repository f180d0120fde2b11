import Sampraan.Contracts.GovernanceSafety
import Sampraan.Library.Numbered

/-! Approvals and cancellations of proposals that exist, and of ids that do not yet. -/

namespace Sampraan.Contracts.SampraanGovernance

open Library

variable {msg : Msg} {id : ℕ} {s t s₀ : SampraanGovernance} {a : Address}
  {accessControl admin : Address} {signers : List Address} {quorumPercent delaySeconds : ℕ}
  {C : Msg × Call → SampraanGovernance → Prop}
  {h : List ((Msg × Call) × SampraanGovernance × SampraanGovernance)}
  {log : List (((Msg × Call) × Behaviour (Msg × Call) Revert) ×
    Machine.Ledger (Msg × Call) SampraanGovernance × Machine.Ledger (Msg × Call) SampraanGovernance)}
  {w : Machine.Ledger (Msg × Call) SampraanGovernance}

/-! ### What is proposed -/

def terms (s : SampraanGovernance) (id : ℕ) : OpKind × Address × Bytes32 × Address × ℕ × String :=
  (s.proposalKind id, s.proposalTarget id, s.proposalRole id, s.proposalAccount id,
    s.proposalTokenId id, s.proposalReason id)

theorem terms_storeProposal {kind : OpKind} {target : Address} {role : Bytes32} {account : Address}
    {tokenId createdAt : ℕ} {reason : String} :
    terms (s.storeProposal id kind target role account tokenId reason createdAt) =
      Function.update (terms s) id (kind, target, role, account, tokenId, reason) := by
  funext id'
  by_cases hid : id' = id
  · simp [terms, storeProposal, hid]
  · simp [terms, storeProposal, hid]

theorem Call.Does.terms {call : Call} (h : call.Does msg s t) :
    Extended s.terms s.proposalCount t.terms t.proposalCount := by
  obtain rfl := h.eq_effect
  cases call with
  | propose kind target role account tokenId reason probe =>
    rw [Call.effect, terms_storeProposal]
    exact .push _ _ _
  | _ => exact .refl _ _

theorem terms_of_run (hr : machine.Run C s h t) :
    Extended s.terms s.proposalCount t.terms t.proposalCount :=
  hr.monotone (R := fun s t => Extended s.terms s.proposalCount t.terms t.proposalCount)
    (I := fun _ => True) (fun _ => .refl _ _) (fun _ _ _ => .trans) trivial
    (fun _ _ _ _ _ _ => trivial) fun _ _ _ _ _ ht => (run_does ht).terms

/-- The entry is the propose call that stored what `s` has for the proposal. -/
def Creates (id : ℕ) (s : SampraanGovernance)
    (e : (Msg × Call) × SampraanGovernance × SampraanGovernance) : Prop :=
  ∃ kind target role account tokenId reason probe,
    e.1.2 = .propose kind target role account tokenId reason probe ∧
      e.2.1.proposalCount + 1 = id ∧
        terms s id = (kind, target, role, account, tokenId, reason)

theorem Call.Does.creates {call : Call} (h : call.Does msg s t) (hpre : ¬ id ≤ s.proposalCount)
    (hpost : id ≤ t.proposalCount) : Creates id t ((msg, call), s, t) := by
  obtain rfl := h.eq_effect
  cases call with
  | propose kind target role account tokenId reason probe =>
    have hnext : s.proposalCount + 1 = id := by
      have hle : id ≤ s.proposalCount + 1 := hpost
      omega
    subst hnext
    refine ⟨kind, target, role, account, tokenId, reason, probe, rfl, rfl, ?_⟩
    rw [Call.effect, terms_storeProposal, Function.update_self]
  | _ => exact absurd hpost hpre

theorem exists_creates (h₀ : s₀.proposalCount = 0) (hr : machine.Run C s₀ h s) (hpos : 1 ≤ id)
    (hid : id ≤ s.proposalCount) : ∃ e ∈ h, Creates id s e := by
  obtain ⟨h₁, e, h₂, rfl, hpre, hpost⟩ := hr.cause (Q := fun s => id ≤ s.proposalCount)
    (by omega) hid
  obtain ⟨-, -, hrun, hr₂⟩ := hr.split
  obtain ⟨kind, target, role, account, tokenId, reason, probe, hcall, hnext, hterms⟩ :=
    (run_does hrun).creates hpre hpost
  refine ⟨e, by simp, kind, target, role, account, tokenId, reason, probe, hcall, hnext, ?_⟩
  rw [(terms_of_run hr₂).same id hpost, hterms]

/-! ### Who approves and cancels -/

theorem Call.Does.approves {call : Call} (h : call.Does msg s t)
    (hpre : ¬ s.proposalApprovedBy id a = true) (hpost : t.proposalApprovedBy id a = true) :
    a = msg.sender ∧ ∃ reason, call = .approve id reason := by
  obtain rfl := h.eq_effect
  cases call with
  | approve id' reason =>
    by_cases hid : id = id'
    · subst hid
      by_cases ha : a = msg.sender
      · exact ⟨ha, reason, rfl⟩
      · simp [Call.effect, addApproval, ha, hpre] at hpost
    · simp [Call.effect, addApproval, hid, hpre] at hpost
  | _ => exact absurd hpost hpre

theorem Call.Does.cancels {call : Call} (h : call.Does msg s t)
    (hpre : ¬ s.proposalCancelled id = true) (hpost : t.proposalCancelled id = true) :
    ∃ reason, call = .cancel id reason := by
  obtain rfl := h.eq_effect
  cases call with
  | cancel id' reason =>
    by_cases hid : id = id'
    · exact ⟨reason, by rw [hid]⟩
    · simp [Call.effect, markCancelled, hid, hpre] at hpost
  | _ => exact absurd hpost hpre

/-! ### Ids without a proposal -/

def Allocated (id : ℕ) (s : SampraanGovernance) : Prop := 1 ≤ id ∧ id ≤ s.proposalCount

instance : Decidable (Allocated id s) := inferInstanceAs (Decidable (_ ∧ _))

def namesAllocated (k : Msg × Call) (s : SampraanGovernance) : Bool :=
  match k.2 with
  | .approve id _ => Allocated id s
  | .cancel id _ => Allocated id s
  | _ => true

/-- No approval and no cancellation stands on an id that has not been allocated. -/
def Unused (s : SampraanGovernance) : Prop :=
  ∀ id, ¬ Allocated id s → s.proposalApprovals id = 0 ∧ s.proposalCancelled id = false

theorem Call.Does.unused {call : Call} (h : call.Does msg s t)
    (hnames : namesAllocated (msg, call) s = true) (hs : Unused s) : Unused t := by
  obtain rfl := h.eq_effect
  cases call with
  | propose kind target role account tokenId reason probe =>
    intro id hid
    refine hs id fun hallocated => hid ⟨hallocated.1, ?_⟩
    change id ≤ s.proposalCount + 1
    have hle := hallocated.2
    omega
  | approve id' reason =>
    have hallocated : Allocated id' s := of_decide_eq_true hnames
    intro id hid
    have hne : id ≠ id' := fun heq => hid (heq ▸ hallocated)
    simpa [Call.effect, addApproval, hne] using hs id hid
  | cancel id' reason =>
    have hallocated : Allocated id' s := of_decide_eq_true hnames
    intro id hid
    have hne : id ≠ id' := fun heq => hid (heq ▸ hallocated)
    simpa [Call.effect, markCancelled, hne] using hs id hid
  | _ => exact hs

theorem Call.Does.allocated {call : Call} (h : call.Does msg s t) (ht : Unused t) :
    namesAllocated (msg, call) s = true := by
  obtain rfl := h.eq_effect
  cases call with
  | approve id reason =>
    refine decide_eq_true (by_contra fun hid => ?_)
    have hzero := (ht id hid).1
    simp [Call.effect, addApproval] at hzero
  | cancel id reason =>
    refine decide_eq_true (by_contra fun hid => ?_)
    have hfalse := (ht id hid).2
    simp [Call.effect, markCancelled] at hfalse
  | _ => rfl

/-! ### Every run -/

structure ApprovalsBound (w : Machine.Ledger (Msg × Call) SampraanGovernance) : Prop where
  approvals : ∀ id a, a ∈ approvers id w.1 → ∃ before e after, w.2 = before ++ e :: after ∧
    e.1.1.sender = a ∧ (∃ reason, e.1.2 = .approve id reason) ∧ ∃ f ∈ before, Creates id w.1 f
  cancellations : ∀ id, w.1.proposalCancelled id = true → ∃ before e after,
    w.2 = before ++ e :: after ∧ (∃ reason, e.1.2 = .cancel id reason) ∧
      ∃ f ∈ before, Creates id w.1 f
  unused : ∀ s, Visited w s → Unused s

theorem Creates.later {f : (Msg × Call) × SampraanGovernance × SampraanGovernance}
    (hf : Creates id s f) (hid : id ≤ s.proposalCount) (hr : machine.Run C s h t) :
    Creates id t f := by
  obtain ⟨kind, target, role, account, tokenId, reason, probe, hcall, hnext, hterms⟩ := hf
  refine ⟨kind, target, role, account, tokenId, reason, probe, hcall, hnext, ?_⟩
  rw [(terms_of_run hr).same id hid, hterms]

theorem creates_before {before after : List ((Msg × Call) × SampraanGovernance × SampraanGovernance)}
    {e : (Msg × Call) × SampraanGovernance × SampraanGovernance} (h₀ : s₀.proposalCount = 0)
    (hr : machine.Run C s₀ (before ++ e :: after) s) (hid : Allocated id e.2.1) :
    ∃ f ∈ before, Creates id s f := by
  obtain ⟨hr₁, hC, hrun, hr₂⟩ := hr.split
  obtain ⟨f, hf, hcreates⟩ := exists_creates h₀ hr₁ hid.1 hid.2
  have hterms := (run_does hrun).terms
  exact ⟨f, hf, hcreates.later hid.2 ((Machine.Run.init.call hC hrun).append hr₂)⟩

theorem approvals_bound_iff
    (h₀ : deploy accessControl signers quorumPercent delaySeconds admin = .ok s₀)
    (hr : system.Run (fun _ _ => True) (s₀, []) log w) :
    ApprovalsBound w ↔ ∀ e ∈ w.2, namesAllocated e.1 e.2.1 = true := by
  obtain ⟨-, hu⟩ := deploy_ok h₀
  have hlinear : machine.Run (fun _ _ => True) s₀ w.2 w.1 := hr.linear
  constructor
  · intro hbound e he
    obtain ⟨-, -, hrun⟩ := hlinear.mem (I := fun _ => True) trivial (fun _ _ _ _ _ _ => trivial) he
    exact (run_does hrun).allocated (hbound.unused _ (.inr ⟨e, he, .inr rfl⟩))
  · intro hnames
    have hr := hlinear.strengthen (D := fun k s => namesAllocated k s = true) hnames
    refine ⟨fun id a ha => ?_, fun id hcancelled => ?_, fun s hs => ?_⟩
    · obtain ⟨before, e, after, hlog, hpre, hpost⟩ := hr.cause
        (Q := fun s => s.proposalApprovedBy id a = true) (by simp [hu.approvedBy]) ha.2
      rw [hlog] at hr
      obtain ⟨-, hallocated, hrun, -⟩ := hr.split
      obtain ⟨rfl, reason, hcall⟩ := (run_does hrun).approves hpre hpost
      rw [namesAllocated, hcall] at hallocated
      exact ⟨before, e, after, hlog, rfl, ⟨reason, hcall⟩,
        creates_before hu.count hr (of_decide_eq_true hallocated)⟩
    · obtain ⟨before, e, after, hlog, hpre, hpost⟩ := hr.cause
        (Q := fun s => s.proposalCancelled id = true) (by simp [hu.cancelled]) hcancelled
      rw [hlog] at hr
      obtain ⟨-, hallocated, hrun, -⟩ := hr.split
      obtain ⟨reason, hcall⟩ := (run_does hrun).cancels hpre hpost
      rw [namesAllocated, hcall] at hallocated
      exact ⟨before, e, after, hlog, ⟨reason, hcall⟩,
        creates_before hu.count hr (of_decide_eq_true hallocated)⟩
    · exact hs.of_run (fun id _ => ⟨hu.approvals id, hu.cancelled id⟩) hr
        fun _ _ _ hs hk ht => (run_does ht).unused hk hs

theorem approvals_bound_iff_sample : ∃ w : Machine.Ledger (Msg × Call) SampraanGovernance,
    w.1.proposalApprovals 1 = 2 ∧ w.1.proposalCancelled 2 = true ∧ ApprovalsBound w := by
  obtain ⟨s, hdeploy, ⟨log, w⟩, hexec, happrovals, hcancelled, hnames⟩ : ∃ s,
      deploy 0xAC [0x51, 0x52, 0x53] 66 0 0xAD = .ok s ∧ ∃ r, system.exec (fun _ _ => True)
        (sampleApprovals ++ [((sampleSigner 1, .cancel 2 "not yet"), .returns)]) [] (s, []) =
          some r ∧ r.2.1.proposalApprovals 1 = 2 ∧ r.2.1.proposalCancelled 2 = true ∧
            ∀ e ∈ r.2.2, namesAllocated e.1 e.2.1 = true :=
    ⟨_, rfl, _, rfl, rfl, rfl, by decide⟩
  exact ⟨w, happrovals, hcancelled,
    (approvals_bound_iff hdeploy (Machine.exec_run .init hexec)).mpr hnames⟩

/-- A signer approves the first proposal before anything is proposed. -/
theorem not_approvalsBound : ∃ s₀ log w,
    deploy 0xAC [0x51, 0x52, 0x53] 66 0 0xAD = .ok s₀ ∧
      system.Run (fun _ _ => True) (s₀, []) log w ∧ w.1.proposalCount = 1 ∧
        w.1.proposalApprovals 1 = 1 ∧ ¬ ApprovalsBound w := by
  obtain ⟨s, hdeploy, ⟨log, w⟩, hexec, hcount, happrovals, e, he, hnone, hearly⟩ : ∃ s,
      deploy 0xAC [0x51, 0x52, 0x53] 66 0 0xAD = .ok s ∧ ∃ r, system.exec (fun _ _ => True)
        [((sampleSigner 0, .approve 1 ""), .returns),
          ((sampleSigner 1, .propose .burnNft 0xA55E7 0 0 1 "stolen" (.version 1)), .returns)]
          [] (s, []) = some r ∧ r.2.1.proposalCount = 1 ∧ r.2.1.proposalApprovals 1 = 1 ∧
            ∃ e ∈ r.2.2, e.2.2.proposalCount = 0 ∧ e.2.2.proposalApprovals 1 ≠ 0 :=
    ⟨_, rfl, _, rfl, rfl, rfl, _, .head _, rfl, by decide⟩
  refine ⟨s, log, w, hdeploy, Machine.exec_run .init hexec, hcount, happrovals, fun hbound => ?_⟩
  refine hearly (hbound.unused _ (.inr ⟨e, he, .inr rfl⟩) 1 fun hallocated => ?_).1
  have hle : 1 ≤ e.2.2.proposalCount := hallocated.2
  omega

end Sampraan.Contracts.SampraanGovernance
