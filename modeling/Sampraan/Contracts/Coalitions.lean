import Sampraan.Contracts.Quorum

/-! What a set of accounts can bring about in the governance contract without any other call. -/

namespace Sampraan.Contracts.SampraanGovernance

open Library

variable {msg : Msg} {id T : ℕ} {s t u s₀ : SampraanGovernance} {S : Set Address}
  {accessControl admin : Address} {signers : List Address} {quorumPercent delaySeconds : ℕ}
  {log : List (((Msg × Call) × Behaviour (Msg × Call) Revert) ×
    Machine.Ledger (Msg × Call) SampraanGovernance × Machine.Ledger (Msg × Call) SampraanGovernance)}
  {w : Machine.Ledger (Msg × Call) SampraanGovernance}

def administers : Call → Bool
  | .setQuorum _ => true
  | .setTimelockDelay _ => true
  | _ => false

/-- A call of a member, at the time `T` at the latest, that leaves the parameters alone. -/
structure MadeBy (S : Set Address) (T : ℕ) (k : Msg × Call) : Prop where
  member : k.1.sender ∈ S
  time : k.1.timestamp ≤ T
  parameters : administers k.2 = false

def Executes (S : Set Address) (T id : ℕ) (w : Machine.Ledger (Msg × Call) SampraanGovernance) :
    Prop :=
  ∃ log w', system.Run (fun _ _ => True) w log w' ∧ w'.1.proposalExecuted id = true ∧
    ∃ h, w'.2 = w.2 ++ h ∧ ∀ e ∈ h, MadeBy S T e.1

/-- From the state `s` on, the calls of the members suffice to execute the proposal. -/
def CanExecute (S : Set Address) (T id : ℕ) (s : SampraanGovernance) : Prop := Executes S T id (s, [])

structure Pending (id : ℕ) (s : SampraanGovernance) : Prop where
  pos : 1 ≤ id
  allocated : id ≤ s.proposalCount
  unexecuted : s.proposalExecuted id = false
  live : s.proposalCancelled id = false

/-! ### Allocated proposals -/

def KindsSet (s : SampraanGovernance) : Prop :=
  ∀ id, 1 ≤ id → id ≤ s.proposalCount → s.proposalKind id ≠ .none

theorem Call.Does.kindsSet {call : Call} (h : call.Does msg s t) (hs : KindsSet s) : KindsSet t := by
  obtain rfl := h.eq_effect
  cases call with
  | propose kind target role account tokenId reason probe =>
    obtain ⟨-, hkind, -⟩ := h
    intro id hpos hle
    simp only [Call.effect, storeProposal] at hle ⊢
    by_cases hid : id = s.proposalCount + 1
    · subst hid
      rw [Function.update_self]
      exact hkind
    · rw [Function.update_of_ne hid]
      apply hs id hpos
      omega
  | _ => exact hs

theorem kindsSet_deploy
    (h : deploy accessControl signers quorumPercent delaySeconds admin = .ok s) : KindsSet s := by
  intro id hpos hle
  rw [(deploy_ok h).2.count] at hle
  omega

theorem Visited.kindsSet
    (h₀ : deploy accessControl signers quorumPercent delaySeconds admin = .ok s₀)
    (hr : system.Run (fun _ _ => True) (s₀, []) log w) (hs : Visited w s) : KindsSet s :=
  hs.of_run (kindsSet_deploy h₀) hr.linear fun _ _ _ hpre _ ht => (run_does ht).kindsSet hpre

/-! ### What a coalition leaves alone -/

/-- The state `t` as calls of the members can have made it out of `s`. -/
structure Within (S : Set Address) (id : ℕ) (s t : SampraanGovernance) : Prop where
  signers : t.signers = s.signers
  isSigner : t.isSigner = s.isSigner
  quorumPercent : t.quorumPercent = s.quorumPercent
  delay : t.timelockDelaySeconds = s.timelockDelaySeconds
  allocated : id ≤ t.proposalCount
  createdAt : t.proposalCreatedAt id = s.proposalCreatedAt id
  approvers : ∀ a, t.proposalApprovedBy id a = true → s.proposalApprovedBy id a = true ∨ a ∈ S

theorem Within.refl (h : id ≤ s.proposalCount) : Within S id s s :=
  ⟨rfl, rfl, rfl, rfl, h, rfl, fun _ ha => .inl ha⟩

theorem Within.step {call : Call} (hs : Within S id s t) (hmember : msg.sender ∈ S)
    (hparameters : administers call = false) (h : call.Does msg t u) : Within S id s u := by
  obtain rfl := h.eq_effect
  obtain ⟨hsigners, hisSigner, hpercent, hdelay, hallocated, hcreated, happrovers⟩ := hs
  cases call with
  | propose kind target role account tokenId reason probe =>
    refine ⟨hsigners, hisSigner, hpercent, hdelay, ?_, ?_, happrovers⟩
    · simp only [Call.effect, storeProposal]
      omega
    · have hid : id ≠ t.proposalCount + 1 := by omega
      simp only [Call.effect, storeProposal, Function.update_of_ne hid, hcreated]
  | approve id' reason =>
    refine ⟨hsigners, hisSigner, hpercent, hdelay, hallocated, hcreated, fun a ha => ?_⟩
    by_cases hid : id = id'
    · subst hid
      by_cases hself : a = msg.sender
      · exact .inr (hself ▸ hmember)
      · apply happrovers
        simpa [Call.effect, addApproval, hself] using ha
    · apply happrovers
      simpa [Call.effect, addApproval, hid] using ha
  | cancel id' reason => exact ⟨hsigners, hisSigner, hpercent, hdelay, hallocated, hcreated, happrovers⟩
  | execute id' => exact ⟨hsigners, hisSigner, hpercent, hdelay, hallocated, hcreated, happrovers⟩
  | setQuorum percent => cases hparameters
  | setTimelockDelay seconds => cases hparameters

theorem Within.quorumRequired (h : Within S id s t) : t.quorumRequired = s.quorumRequired := by
  simp only [SampraanGovernance.quorumRequired, h.signers, h.quorumPercent]

/-- The members who are signers. -/
def seats (S : Set Address) (s : SampraanGovernance) : Set Address := {a | a ∈ S ∧ s.isSigner a = true}

theorem Within.approvals (h : Within S id s t) (ht : Safe t) :
    t.proposalApprovals id ≤ (SampraanGovernance.approvers id s ∪ seats S s).ncard := by
  rw [ht.approvals]
  apply Set.ncard_le_ncard _ (Set.toFinite _)
  rintro a ⟨ha, happroved⟩
  rw [h.signers] at ha
  rcases h.approvers a happroved with hold | hmember
  · exact .inl ⟨ha, hold⟩
  · refine .inr ⟨hmember, ?_⟩
    rw [← h.isSigner]
    apply (ht.signers.mem a).mp
    rw [h.signers]
    exact ha

/-- A proposal is executed by a call for it. -/
theorem Call.Does.executes {call : Call} (h : call.Does msg s t)
    (hpre : ¬ s.proposalExecuted id = true) (hpost : t.proposalExecuted id = true) :
    call = .execute id := by
  obtain rfl := h.eq_effect
  cases call with
  | execute id' =>
    by_cases hid : id = id'
    · rw [hid]
    · refine absurd ?_ hpre
      simpa [Call.effect, markExecuted, hid] using hpost
  | _ => exact absurd hpost hpre

theorem CanExecute.needs (hsafe : Safe s) (hpending : Pending id s) (h : CanExecute S T id s) :
    (seats S s).Nonempty ∧ s.quorumRequired ≤ (approvers id s ∪ seats S s).ncard ∧
      s.proposalCreatedAt id + s.timelockDelaySeconds ≤ T := by
  obtain ⟨log, w, hr, hexecuted, h, hh, hmade⟩ := h
  obtain rfl : w.2 = h := hh
  have hlinear : machine.Run (fun k _ => MadeBy S T k) s w.2 w.1 := hr.linear.strengthen hmade
  have hstep : ∀ k t u, (Safe t ∧ Within S id s t) → MadeBy S T k → machine.run k t = .ok u →
      Safe u ∧ Within S id s u := by
    rintro ⟨msg, call⟩ t u ⟨ht, hwithin⟩ hk hu
    have hdoes : call.Does msg t u := run_does hu
    exact ⟨hdoes.safe ht, hwithin.step hk.member hk.parameters hdoes⟩
  have hstart : Safe s ∧ Within S id s s := ⟨hsafe, .refl hpending.allocated⟩
  obtain ⟨before, ⟨⟨msg, call⟩, t, u⟩, after, hsplit, hpre, hpost⟩ := hlinear.cause
    (Q := fun t => t.proposalExecuted id = true) (by simp [hpending.unexecuted]) hexecuted
  obtain ⟨⟨ht, hwithin⟩, hk, hu⟩ := hlinear.mem hstart hstep
    (e := ((msg, call), t, u)) (by simp [hsplit])
  have hdoes : call.Does msg t u := run_does hu
  obtain rfl := hdoes.executes hpre hpost
  obtain ⟨hexecutable, -⟩ := hdoes
  have hsigner := hexecutable.signer
  have hquorum := hexecutable.quorum
  have helapsed := hexecutable.elapsed
  rw [hwithin.isSigner] at hsigner
  rw [hwithin.quorumRequired] at hquorum
  rw [hwithin.createdAt, hwithin.delay] at helapsed
  refine ⟨⟨msg.sender, hk.member, hsigner⟩, hquorum.trans (hwithin.approvals ht), helapsed.trans hk.time⟩

/-! ### What a coalition can do -/

theorem run_approve (hs : Safe s) (hsigner : s.isSigner msg.sender = true) (hpending : Pending id s)
    (hnew : s.proposalApprovedBy id msg.sender = false) :
    machine.run (msg, .approve id "") s = .ok (s.addApproval id msg.sender) := by
  have hbound : s.proposalApprovals id + 1 < 2 ^ 256 := by
    have hle : (approvers id s).ncard ≤ s.signers.length := by
      refine (Set.ncard_le_ncard (t := {a | a ∈ s.signers}) (fun a ha => ha.1) (Set.toFinite _)).trans ?_
      have heq : {a | a ∈ s.signers} = (s.signers.toFinset : Set Address) := by
        ext a
        simp
      rw [heq, Set.ncard_coe_finset]
      exact s.signers.toFinset_card_le
    have hlength := hs.signers.length_le
    rw [hs.approvals]
    omega
  change approve msg id s = _
  simp only [approve, onlySigner, revertIf_bind, checkedAdd_bind, pure_eq_ok, not_or,
    Bool.not_eq_true, Bool.not_eq_false]
  exact ⟨hsigner, ⟨hpending.unexecuted, hpending.live⟩, hnew, hbound, trivial⟩

theorem Executes.of_execute (msg : Msg) (hmember : msg.sender ∈ S) (htime : msg.timestamp ≤ T)
    (h : Executable msg id w.1) : Executes S T id w := by
  have hrun : system.run ((msg, .execute id), .returns) w = .ok (begun msg id w) := by
    change machine.enter callsTarget _ _ w = _
    simp only [Machine.enter, run_execute h, callsTarget, Machine.foreign, if_true, begun]
  refine ⟨_, begun msg id w, Machine.Run.init.call trivial hrun, by simp [begun, markExecuted], _, rfl, ?_⟩
  intro e he
  obtain rfl := List.mem_singleton.mp he
  exact ⟨hmember, htime, rfl⟩

theorem Executes.of_approve (msg : Msg) (hmember : msg.sender ∈ S) (htime : msg.timestamp ≤ T)
    (hrun : machine.run (msg, .approve id "") w.1 = .ok (w.1.addApproval id msg.sender))
    (h : Executes S T id (w.1.addApproval id msg.sender,
      w.2 ++ [((msg, .approve id ""), w.1, w.1.addApproval id msg.sender)])) : Executes S T id w := by
  obtain ⟨log, w', hr, hexecuted, h, hh, hmade⟩ := h
  have hstep : system.run ((msg, .approve id ""), .returns) w =
      .ok (w.1.addApproval id msg.sender,
        w.2 ++ [((msg, .approve id ""), w.1, w.1.addApproval id msg.sender)]) := by
    change machine.enter callsTarget _ _ w = _
    simp only [Machine.enter, hrun, callsTarget, Bool.false_eq_true, if_false]
  refine ⟨_, w', (Machine.Run.init.call trivial hstep).append hr, hexecuted, _ :: h,
    by rw [hh, List.append_assoc, List.singleton_append], ?_⟩
  intro e he
  rcases List.mem_cons.mp he with rfl | he
  · exact ⟨hmember, htime, rfl⟩
  · exact hmade e he

/-- By induction on the members who have not approved yet. -/
theorem executes_of_quorum (n : ℕ) (hn : (seats S w.1 \ approvers id w.1).ncard = n) (hsafe : Safe w.1)
    (hkinds : KindsSet w.1) (hpending : Pending id w.1) (hT : T < 2 ^ 256)
    (hseats : (seats S w.1).Nonempty)
    (hquorum : w.1.quorumRequired ≤ (approvers id w.1 ∪ seats S w.1).ncard)
    (helapsed : w.1.proposalCreatedAt id + w.1.timelockDelaySeconds ≤ T) : Executes S T id w := by
  induction n generalizing w with
  | zero =>
    obtain ⟨a, ha, hsigner⟩ := hseats
    have hsubset : seats S w.1 ⊆ approvers id w.1 := by
      rw [← Set.sdiff_eq_empty, ← Set.ncard_eq_zero (Set.toFinite _)]
      exact hn
    rw [Set.union_eq_left.mpr hsubset, ← hsafe.approvals] at hquorum
    exact .of_execute ⟨a, T⟩ ha le_rfl
      ⟨hsigner, hpending.unexecuted, hpending.live, hquorum, by omega, helapsed,
        hkinds id hpending.pos hpending.allocated⟩
  | succ n ih =>
    obtain ⟨a, ⟨ha, hsigner⟩, hfresh⟩ : (seats S w.1 \ approvers id w.1).Nonempty := by
      apply Set.nonempty_of_ncard_ne_zero
      omega
    have hmem : a ∈ w.1.signers := (hsafe.signers.mem a).mpr hsigner
    have hnew : w.1.proposalApprovedBy id a = false := by
      rw [← Bool.not_eq_true]
      exact fun happroved => hfresh ⟨hmem, happroved⟩
    have hinsert : approvers id (w.1.addApproval id a) = insert a (approvers id w.1) :=
      approvers_addApproval a hmem
    have happroved : Safe (w.1.addApproval id (⟨a, T⟩ : Msg).sender) := hsafe.approve hsigner hnew
    refine .of_approve ⟨a, T⟩ ha le_rfl (run_approve hsafe hsigner hpending hnew)
      (ih ?_ happroved hkinds
        ⟨hpending.pos, hpending.allocated, hpending.unexecuted, hpending.live⟩ hseats ?_ helapsed)
    · change (seats S w.1 \ approvers id (w.1.addApproval id a)).ncard = n
      have hrest : seats S w.1 \ insert a (approvers id w.1) =
          (seats S w.1 \ approvers id w.1) \ {a} := by
        ext b
        simp only [Set.mem_sdiff, Set.mem_insert_iff, Set.mem_singleton_iff, not_or]
        tauto
      have hmember : a ∈ seats S w.1 \ approvers id w.1 := ⟨⟨ha, hsigner⟩, hfresh⟩
      rw [hinsert, hrest, Set.ncard_sdiff_singleton_of_mem hmember, hn]
      rfl
    · change w.1.quorumRequired ≤ (approvers id (w.1.addApproval id a) ∪ seats S w.1).ncard
      have hseat : a ∈ approvers id w.1 ∪ seats S w.1 := .inr ⟨ha, hsigner⟩
      rw [hinsert, Set.insert_union, Set.insert_eq_of_mem hseat]
      exact hquorum

/-! ### Every run -/

end Sampraan.Contracts.SampraanGovernance
