import Sampraan.Assets.Approvals

/-! Separation of duties: every sensitive transfer rests on an approval that another identity than
the one transferring has granted. -/

namespace Sampraan.Assets.Approvals

open Backend Library
open Governance.Transfer (partyEnvironment)

variable {env : Environment} {w₀ : World} {c c' : ApprovalConfig} {approvalId : String}
  {s t : World}

/-- The approval has been granted. -/
def Stands (approvalId : String) (w : World) : Prop :=
  ∃ r ∈ w.assetApprovals, r.id = approvalId ∧ (r.status = .approved ∨ r.status = .executed)

def IsRejected (approvalId : String) (w : World) : Prop :=
  ∃ r ∈ w.assetApprovals, r.id = approvalId ∧ r.status = .rejected

/-- The statement takes the approval out of PENDING. -/
def Settles (approvalId : String) (s t : World) : Prop :=
  (∃ r ∈ s.assetApprovals, r.id = approvalId ∧ r.status = .pending) ∧
    ∃ r ∈ t.assetApprovals, r.id = approvalId ∧ r.status ≠ .pending

/-- The statement is the decision of an identity that may decide, and that is not the requester. -/
def DecidesOn (c : ApprovalConfig) (approvalId requesterIdentityId : String)
    (decision : ApprovalDecision) (e : ℕ × World × World) : Prop :=
  ∃ (user : PlatformUser) (input : DecideInput) (p : Promise ApprovalReply) (actor : IdentityRow),
    c.threads e.1 = some ⟨.decide (some user) input, p⟩ ∧
      input.approvalId = approvalId ∧ input.decision = decision ∧
        Separated user approvalId actor (c.history e.1) ∧ actor.id ≠ requesterIdentityId

/-- The approval behind the transfer is the actor's own request, granted by another identity. -/
structure GrantedByAnother (c : ApprovalConfig) (before : List (ℕ × World × World)) (p : Prepared)
    (identity : IdentityRow) (row : AssetApprovalRow) : Prop where
  actor : p.actor = some identity
  approval : p.approvalRow = some row
  asset : row.assetId = p.asset.id
  requester : row.requesterIdentityId = identity.id
  granted : ∃ e ∈ before, DecidesOn c row.id identity.id .approved e

structure DutiesSeparated (env : Environment) (c : ApprovalConfig) : Prop where
  approved : ∀ row ∈ c.shared.assetApprovals, row.status = .approved ∨ row.status = .executed →
    ∃ e ∈ c.log, DecidesOn c row.id row.requesterIdentityId .approved e
  rejected : ∀ row ∈ c.shared.assetApprovals, row.status = .rejected →
    ∃ e ∈ c.log, DecidesOn c row.id row.requesterIdentityId .rejected e
  once : ∀ approvalId, System.AtMostOnce (fun e => Settles approvalId e.2.1 e.2.2) c.log
  transfers : ∀ before e after, c.log = before ++ e :: after → Mines e.2.1 e.2.2 →
    ∃ (call : TransferCall) (q : Promise ApprovalReply) (p : Prepared),
      c.threads e.1 = some ⟨.transfer call, q⟩ ∧ preparedBy env call (c.history e.1) = some p ∧
        (isSensitive p.asset.classification = true →
          ∃ identity row, GrantedByAnother c before p identity row)

/-! ### How an approval moves -/

/-- An approval stays one of its requester, and what has been decided stays decided. -/
structure ApprovalMoves (r r' : AssetApprovalRow) : Prop where
  id : r'.id = r.id
  requester : r'.requesterIdentityId = r.requesterIdentityId
  granted : r.status = .approved ∨ r.status = .executed → r'.status = .approved ∨ r'.status = .executed
  settled : r.status ≠ .pending → r'.status ≠ .pending

abbrev ApprovalsMove (s t : World) : Prop :=
  Table.Evolves AssetApprovalRow.id ApprovalMoves s.assetApprovals t.assetApprovals

theorem ApprovalMoves.refl (r : AssetApprovalRow) : ApprovalMoves r r :=
  ⟨rfl, rfl, fun h => h, fun h => h⟩

theorem ApprovalMoves.trans {r r' r'' : AssetApprovalRow} (h : ApprovalMoves r r')
    (h' : ApprovalMoves r' r'') : ApprovalMoves r r'' :=
  ⟨h'.id.trans h.id, h'.requester.trans h.requester, fun hr => h'.granted (h.granted hr),
    fun hr => h'.settled (h.settled hr)⟩

theorem pending_of_isPending {r : AssetApprovalRow} (h : isPending approvalId r = true) :
    r.id = approvalId ∧ r.status = .pending := by
  simpa [isPending] using h

theorem Effect.moves {call : ApprovalCall} {h : List (World × World)} (he : Effect call h s t) :
    ApprovalsMove s t := by
  cases he with
  | keeps ht => exact .of_eq ApprovalMoves.refl ht
  | requests row hpending hfresh ht =>
    rw [ApprovalsMove, ht]
    exact .append ApprovalMoves.refl hfresh
  | decides actor hseparated =>
    apply Table.Evolves.update ApprovalMoves.refl
    · exact fun _ => rfl
    · intro r hr
      obtain ⟨-, hstatus⟩ := pending_of_isPending hr
      refine ⟨rfl, rfl, ?_, ?_⟩
      · rintro (happroved | hexecuted)
        · simp [hstatus] at happroved
        · simp [hstatus] at hexecuted
      · exact fun hne => absurd hstatus hne
  | marks row happroved hread =>
    unfold markApprovalIn
    split
    · exact .refl ApprovalMoves.refl _
    · apply Table.Evolves.update ApprovalMoves.refl
      · exact fun _ => rfl
      · exact fun r _ => ⟨rfl, rfl, fun _ => .inr rfl, fun _ => by simp [executedApproval]⟩

theorem approval_discipline (env : Environment) :
    (approvalSystem env).Discipline UniqueApprovals ApprovalsMove where
  body call := (approval_recalls env call).obeys fun _ _ _ _ he => he.effect.moves
  interfere _ _ _ h := .of_eq ApprovalMoves.refl h
  keep _ _ hs h := h.unique hs

/-! ### Which statement decides -/

/-- The row that a decision leaves is the one before, or it was PENDING. -/
theorem mem_decideApprovalIn {input : UpdateApprovalStatus} {r' : AssetApprovalRow}
    (hr' : r' ∈ (decideApprovalIn input s).assetApprovals) : r' ∈ s.assetApprovals ∨
      r'.id = input.approvalId ∧ r'.status = input.status.status := by
  obtain ⟨r, hr, rfl⟩ := Table.mem_update.mp hr'
  by_cases hpending : isPending input.approvalId r = true
  · rw [if_pos hpending]
    exact .inr ⟨(pending_of_isPending hpending).1, rfl⟩
  · rw [if_neg hpending]
    exact .inl hr

theorem mem_markApprovalIn {r' : AssetApprovalRow}
    (hr' : r' ∈ (markApprovalIn approvalId s).assetApprovals) : r' ∈ s.assetApprovals ∨
      r'.id = approvalId ∧ r'.status = .executed := by
  unfold markApprovalIn at hr'
  split at hr'
  · exact .inl hr'
  · obtain ⟨r, hr, rfl⟩ := Table.mem_update.mp hr'
    by_cases hid : (r.id == approvalId) = true
    · rw [if_pos hid]
      exact .inr ⟨beq_iff_eq.mp hid, rfl⟩
    · rw [if_neg hid]
      exact .inl hr

/-- Only a decision brings about a status other than PENDING and EXECUTED. -/
theorem Effect.decides_of {call : ApprovalCall} {h : List (World × World)} (he : Effect call h s t)
    {decision : ApprovalDecision} {r' : AssetApprovalRow} (hr' : r' ∈ t.assetApprovals)
    (hid : r'.id = approvalId) (hstatus : r'.status = decision.status) (hnew : r' ∉ s.assetApprovals) :
    ∃ user input actor, call = .decide (some user) input ∧ input.approvalId = approvalId ∧
      input.decision = decision ∧ Separated user approvalId actor h := by
  cases he with
  | keeps ht => exact absurd (ht ▸ hr') hnew
  | requests row hpending hfresh ht =>
    rw [ht] at hr'
    rcases List.mem_append.mp hr' with hmem | hmem
    · exact absurd hmem hnew
    · rw [List.mem_singleton.mp hmem, hpending] at hstatus
      cases decision <;> cases hstatus
  | @decides user input _ _ actor hseparated =>
    rcases mem_decideApprovalIn hr' with hmem | ⟨hinput, hdecision⟩
    · exact absurd hmem hnew
    · obtain rfl : input.approvalId = approvalId := hinput.symm.trans hid
      refine ⟨user, input, actor, rfl, rfl, ?_, hseparated⟩
      have hsame := hdecision.symm.trans hstatus
      cases hinput : input.decision <;> cases decision <;> simp [hinput, ApprovalDecision.status] at hsame ⊢
  | marks row happroved hread =>
    rcases mem_markApprovalIn hr' with hmem | ⟨-, hexecuted⟩
    · exact absurd hmem hnew
    · rw [hexecuted] at hstatus
      cases decision <;> cases hstatus

/-- An approval comes to stand by a decision, if a call marks only one that stands. -/
theorem Effect.grants {call : ApprovalCall} {h : List (World × World)} (he : Effect call h s t)
    (hpast : ∀ e ∈ h, Stands approvalId e.1 → Stands approvalId s) (hs : ¬ Stands approvalId s)
    (ht : Stands approvalId t) : ∃ user input actor, call = .decide (some user) input ∧
      input.approvalId = approvalId ∧ input.decision = .approved ∧
        Separated user approvalId actor h := by
  obtain ⟨r', hr', hid, hstatus⟩ := ht
  have hnew : r' ∉ s.assetApprovals := fun hmem => hs ⟨r', hmem, hid, hstatus⟩
  rcases hstatus with happroved | hexecuted
  · have hdecision : r'.status = ApprovalDecision.approved.status := happroved
    exact he.decides_of hr' hid hdecision hnew
  exfalso
  cases he with
  | keeps ht => exact hnew (ht ▸ hr')
  | requests row hpending hfresh ht =>
    rw [ht] at hr'
    rcases List.mem_append.mp hr' with hmem | hmem
    · exact hnew hmem
    · rw [List.mem_singleton.mp hmem, hpending] at hexecuted
      cases hexecuted
  | @decides user input _ _ actor hseparated =>
    rcases mem_decideApprovalIn hr' with hmem | ⟨-, hdecision⟩
    · exact hnew hmem
    · rw [hdecision] at hexecuted
      cases hinput : input.decision <;> simp [hinput, ApprovalDecision.status] at hexecuted
  | marks row happroved hread =>
    rcases mem_markApprovalIn hr' with hmem | ⟨hrow, -⟩
    · exact hnew hmem
    · obtain ⟨e, he, hmem⟩ := hread
      exact hs (hpast e he ⟨row, hmem, hrow.symm.trans hid, .inl happroved⟩)

/-! ### Runs -/

section

variable {C : ApprovalConfig → Move ApprovalCall World → Prop}

theorem stands_of_past (hids : UniqueApprovals w₀) (hc : (approvalSystem env).Reach C w₀ c) {i : ℕ}
    {e : World × World} (he : e ∈ c.history i) (hs : Stands approvalId e.1) :
    Stands approvalId c.shared := by
  obtain ⟨r, hr, hid, hstatus⟩ := hs
  obtain ⟨-, hlater⟩ := (approval_discipline env).recalled hids hc he
  obtain ⟨r', hr', hmoves⟩ := Table.exists_evolved ApprovalMoves.refl
    (fun _ _ _ => ApprovalMoves.trans) (fun _ _ => id) hlater hr
  exact ⟨r', hr', hmoves.id.trans hid, hmoves.granted hstatus⟩

/-- A row that is there, or that a call has found, is still there with its requester. -/
theorem requester_eq (hids : UniqueApprovals w₀) (hc : (approvalSystem env).Reach C w₀ c) {i : ℕ}
    {e : World × World} (he : e ∈ c.history i) {row row' : AssetApprovalRow}
    (hrow : row ∈ e.1.assetApprovals) (hrow' : row' ∈ c.shared.assetApprovals)
    (hid : row'.id = row.id) : row'.requesterIdentityId = row.requesterIdentityId := by
  obtain ⟨-, hlater⟩ := (approval_discipline env).recalled hids hc he
  obtain ⟨row'', hmem, hmoves⟩ := Table.exists_evolved ApprovalMoves.refl
    (fun _ _ _ => ApprovalMoves.trans) (fun _ _ => id) hlater hrow
  have hunique : UniqueApprovals c.shared := (approval_discipline env).shared_inv hids hc
  obtain rfl : row'' = row' := hunique.eq hmem hrow' (hmoves.id.trans hid.symm)
  exact hmoves.requester

theorem Separated.mono {user : PlatformUser} {actor : IdentityRow} {h h' : List (World × World)}
    (hs : Separated user approvalId actor h) (hh : h ⊆ h') : Separated user approvalId actor h' := by
  obtain ⟨⟨e, he, hfound⟩, hlinked, hmay, row, hid, hne, e', he', hrow⟩ := hs
  refine ⟨⟨e, hh he, hfound⟩, hlinked, ?_, row, hid, hne, e', hh he', hrow⟩
  rcases hmay with hadmin | ⟨e, he, hrole⟩ | ⟨roleName, ⟨e, he, hrole⟩, e', he', hpermission⟩
  · exact .inl hadmin
  · exact .inr (.inl ⟨e, hh he, hrole⟩)
  · exact .inr (.inr ⟨roleName, ⟨e, hh he, hrole⟩, e', hh he', hpermission⟩)

/-- A decision that a call has made, seen later in the run. -/
theorem decidesOn_of_ran (hids : UniqueApprovals w₀) (hc : (approvalSystem env).Reach C w₀ c)
    {c₀ : ApprovalConfig} {e : ℕ × World × World} {call : ApprovalCall}
    (hran : (approvalSystem env).Ran C w₀ c₀ c e call) {decision : ApprovalDecision}
    (hdecides : ∃ user input actor, call = .decide (some user) input ∧
      input.approvalId = approvalId ∧ input.decision = decision ∧
        Separated user approvalId actor (c₀.history e.1))
    {row : AssetApprovalRow} (hrow : row ∈ c.shared.assetApprovals) (hid : row.id = approvalId) :
    DecidesOn c approvalId row.requesterIdentityId decision e := by
  obtain ⟨user, input, actor, rfl, hinput, hdecision, hseparated⟩ := hdecides
  obtain ⟨p, hp⟩ := hran.thread_eq
  obtain ⟨found, hfound, hne, e', he', hmem⟩ := hseparated.request
  have hsame := requester_eq hids hc (hran.continues.mem_history he') hmem hrow
    (hid.trans hfound.symm)
  refine ⟨user, input, p, actor, hp, hinput, hdecision,
    hseparated.mono (hran.continues.history e.1).subset, ?_⟩
  rw [hsame]
  exact hne.symm

theorem decidesOn_of_stands (hw₀ : w₀.assetApprovals = []) (hc : (approvalSystem env).Reach C w₀ c)
    {row : AssetApprovalRow} (hrow : row ∈ c.shared.assetApprovals)
    (hstatus : row.status = .approved ∨ row.status = .executed) :
    ∃ e ∈ c.log, DecidesOn c row.id row.requesterIdentityId .approved e := by
  have hids : UniqueApprovals w₀ := by simp [UniqueApprovals, Table.UniqueKey, hw₀]
  obtain ⟨c₀, e, call, hran, hnot, hthen⟩ := hc.cause (P := Stands row.id) (by simp [Stands, hw₀])
    (fun s t (ht : t.assetApprovals = s.assetApprovals) hs hst => hs (by rwa [Stands, ← ht]))
    ⟨row, hrow, rfl, hstatus⟩
  have heffect := (hran.recalls (approval_recalls env)).effect
  refine ⟨e, hran.mem_log, decidesOn_of_ran hids hc hran (heffect.grants ?_ hnot hthen) hrow rfl⟩
  intro e' he' hs
  exact hran.shared ▸ stands_of_past hids hran.reach he' hs

theorem decidesOn_of_rejected (hw₀ : w₀.assetApprovals = [])
    (hc : (approvalSystem env).Reach C w₀ c) {row : AssetApprovalRow}
    (hrow : row ∈ c.shared.assetApprovals) (hstatus : row.status = .rejected) :
    ∃ e ∈ c.log, DecidesOn c row.id row.requesterIdentityId .rejected e := by
  have hids : UniqueApprovals w₀ := by simp [UniqueApprovals, Table.UniqueKey, hw₀]
  obtain ⟨c₀, e, call, hran, hnot, r', hr', hid, hrejected⟩ :=
    hc.cause (P := IsRejected row.id) (by simp [IsRejected, hw₀])
      (fun s t (ht : t.assetApprovals = s.assetApprovals) hs hst => hs (by rwa [IsRejected, ← ht]))
      ⟨row, hrow, rfl, hstatus⟩
  have heffect := (hran.recalls (approval_recalls env)).effect
  have hnew : r' ∉ e.2.1.assetApprovals := fun hmem => hnot ⟨r', hmem, hid, hrejected⟩
  have hdecision : r'.status = ApprovalDecision.rejected.status := hrejected
  exact ⟨e, hran.mem_log,
    decidesOn_of_ran hids hc hran (heffect.decides_of hr' hid hdecision hnew) hrow rfl⟩

theorem settles_once (hids : UniqueApprovals w₀) (hc : (approvalSystem env).Reach C w₀ c)
    (approvalId : String) :
    System.AtMostOnce (fun e => Settles approvalId e.2.1 e.2.2) c.log := by
  refine ((approval_discipline env).once hids hc
    (fun w => ∃ r ∈ w.assetApprovals, r.id = approvalId ∧ r.status ≠ .pending) (Settles approvalId)
    ?_ ?_).1
  · rintro s t - hmoves ⟨r, hr, hid, hsettled⟩
    obtain ⟨r', hr', hmove⟩ := hmoves.rows r hr
    exact ⟨r', hr', hmove.id.trans hid, hmove.settled hsettled⟩
  · rintro s t hunique - ⟨⟨r, hr, hid, hpending⟩, hsettled⟩
    refine ⟨?_, hsettled⟩
    rintro ⟨r', hr', hid', hne⟩
    obtain rfl := hunique.eq hr' hr (hid'.trans hid.symm)
    exact hne hpending

theorem grantedByAnother_of_mines (hw₀ : w₀.assetApprovals = [])
    (hc : (approvalSystem env).Reach C w₀ c) {before after : List (ℕ × World × World)}
    {e : ℕ × World × World} (hlog : c.log = before ++ e :: after) (hm : Mines e.2.1 e.2.2) :
    ∃ (call : TransferCall) (q : Promise ApprovalReply) (p : Prepared),
      c.threads e.1 = some ⟨.transfer call, q⟩ ∧ preparedBy env call (c.history e.1) = some p ∧
        (isSensitive p.asset.classification = true →
          ∃ identity row, GrantedByAnother c before p identity row) := by
  have hids : UniqueApprovals w₀ := by simp [UniqueApprovals, Table.UniqueKey, hw₀]
  obtain ⟨c₀, _, hran, rfl⟩ := hc.ran_of_split hlog
  obtain ⟨call, p, rfl, hp, hallowed, hread⟩ := (hran.recalls (approval_recalls env)).mines hm
  obtain ⟨q, hq⟩ := hran.thread_eq
  refine ⟨call, q, p, hq, preparedBy_mono hp (hran.continues.history e.1), fun hsensitive => ?_⟩
  obtain ⟨row, hrow, happroved, -, e', he', hmem⟩ := hallowed.approval hsensitive
  obtain ⟨-, hasset, identity, hactor, hrequester⟩ := hread row hrow
  -- The row that the transfer has found stood by then, so a decision before it has granted it.
  obtain ⟨c₁, _, hran₁⟩ := hran.reach.ran (Config.mem_history.mp he')
  have hmem₁ : row ∈ c₁.shared.assetApprovals := hran₁.shared ▸ hmem
  obtain ⟨e₁, he₁, user, input, p₁, actor, hthread, hinput, hdecision, hseparated, hne⟩ :=
    decidesOn_of_stands hw₀ hran₁.reach hmem₁ (.inl happroved)
  have hcont := hran₁.continues.trans hran.continues
  obtain ⟨p₂, hthread₂, -⟩ := hcont.threads _ _ hthread
  refine ⟨identity, row, hactor, hrow, hasset, hrequester, e₁, hran₁.continues.log.subset he₁,
    user, input, p₂, actor, hthread₂, hinput, hdecision,
    hseparated.mono (hcont.history e₁.1).subset, ?_⟩
  rwa [← hrequester]

end

theorem duties_separated (hw₀ : w₀.assetApprovals = [])
    (hc : (approvalSystem env).Reachable w₀ c) : DutiesSeparated env c where
  approved _ hrow hstatus := decidesOn_of_stands hw₀ hc hrow hstatus
  rejected _ hrow hstatus := decidesOn_of_rejected hw₀ hc hrow hstatus
  once := settles_once (by simp [UniqueApprovals, Table.UniqueKey, hw₀]) hc
  transfers _ _ _ hlog hm := grantedByAnother_of_mines hw₀ hc hlog hm

def approvalRun (calls : List (ApprovalCall × ℕ)) : Option ApprovalConfig :=
  (approvalSystem partyEnvironment).exec (fun _ _ => True)
    (Config.initial { approvalWorld with assetApprovals := [] }) (System.sequence 0 calls)

/-- A transfer that its sender has requested and an administrator has approved. -/
def approvedTransfer : List (ApprovalCall × ℕ) :=
  [(.request (some { id := 2, isAdmin := false }) "approval"
      { assetId := "asset", targetIdentityId := none }, 7),
    (.decide (some { id := 1, isAdmin := true })
      { approvalId := "approval", decision := .approved, reason := none }, 10),
    (.transfer (transferTo "recipient"), 20)]

set_option maxRecDepth 8000 in
theorem duties_separated_sample : ∃ c : ApprovalConfig,
    (∃ e ∈ c.log, Mines e.2.1 e.2.2) ∧ DutiesSeparated partyEnvironment c := by
  have hrun : (approvalRun approvedTransfer).isSome := by rfl
  have hmines : ∃ e ∈ ((approvalRun approvedTransfer).get hrun).log, Mines e.2.1 e.2.2 := by
    unfold Mines
    decide +revert
  have hc : (approvalSystem partyEnvironment).Reachable { approvalWorld with assetApprovals := [] }
      ((approvalRun approvedTransfer).get hrun) :=
    System.exec_reach (fun m hm => System.harmless_of_mem_sequence hm) (Option.some_get hrun).symm
  exact ⟨_, hmines, duties_separated rfl hc⟩

end Sampraan.Assets.Approvals
