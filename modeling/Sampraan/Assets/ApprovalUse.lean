import Sampraan.Assets.TransferSystem
import Sampraan.Governance.TransferAuthority
import Sampraan.Library.ActThenMark

/-! How many confirmed transfers an approval stands behind, and to whom they go. -/

namespace Sampraan.Assets

open Backend Library
open Governance.Transfer (partyEnvironment partyWorld)

abbrev UniqueApprovals (w : World) : Prop :=
  Table.UniqueKey AssetApprovalRow.id w.assetApprovals

variable {env : Environment} {w₀ : World} {c c' : TransferConfig} {s t : World}
  {approvalId : String} {h : List (World × World)} {call : TransferCall}

/-! ### The approval behind a transfer -/

/-- The row on which the policy has allowed the transfer of a sensitive asset. -/
def approvalBehind (env : Environment) (call : TransferCall) (h : List (World × World)) :
    Option AssetApprovalRow :=
  match preparedBy env call h with
  | some p => if isSensitive p.asset.classification then p.approvalRow else none
  | none => none

/-- The statement confirms a transfer, and the approval is the one behind it. -/
def UsesApproval (env : Environment) (approvalId : String) (call : TransferCall)
    (h : List (World × World)) (s t : World) : Prop :=
  Mines s t ∧ ∃ row ∈ (approvalBehind env call h).toList, row.id = approvalId

/-- The call confirmed a transfer at `e`, and the approval is the one behind it. -/
def TransfersOn (env : Environment) (approvalId : String) (c : TransferConfig)
    (e : ℕ × World × World) : Prop :=
  ∃ th ∈ (c.threads e.1).toList, UsesApproval env approvalId th.call (c.history e.1) e.2.1 e.2.2

/-- The step hands the node the transfer of an asset to the identity's wallet. -/
def GoesTo (env : Environment) (identity : IdentityRow) (s t : World) : Prop :=
  ∃ besu assetId, env.besu = some besu ∧ Submits
    (.transferAsset assetId (deriveIdentityWallet env (besu.privateKey.getD "") identity.did)) s t

/-- The approval is behind at most one confirmed transfer, and that one goes to the recipient it
was granted for. -/
structure AuthorizesOne (env : Environment) (approvalId : String) (c : TransferConfig) : Prop where
  once : System.AtMostOnce (TransfersOn env approvalId c) c.log
  target : ∀ e ∈ c.log, TransfersOn env approvalId c e → ∀ row ∈ c.shared.assetApprovals,
    row.id = approvalId → ∀ target, row.targetIdentityId = some target →
      ∃ identity, identity.id = target ∧ Found (c.history e.1) identity ∧
        GoesTo env identity e.2.1 e.2.2

/-! ### The check that the update lacks -/

def IsExecuted (approvalId : String) (w : World) : Prop :=
  ∃ r ∈ w.assetApprovals, r.id = approvalId ∧ r.status = .executed

def MarksExecuted (approvalId : String) (_ : TransferCall) (s t : World) : Prop :=
  ¬ IsExecuted approvalId s ∧ IsExecuted approvalId t

/-- A transfer is confirmed on the approval only while it is not EXECUTED and no call that has
confirmed one on it has yet to mark it. -/
def Alone (env : Environment) (approvalId : String) (c : TransferConfig) :
    Move TransferCall World → Prop
  | .run i => System.Meets (fun call s t => UsesApproval env approvalId call (c.history i) s t →
      ¬ IsExecuted approvalId s ∧ ∀ e ∈ c.log, TransfersOn env approvalId c e →
        ¬ c.Unmarked (MarksExecuted approvalId) e.1) c (.run i)
  | _ => True

instance (w : World) : Decidable (IsExecuted approvalId w) := by
  unfold IsExecuted
  infer_instance

instance (call : TransferCall) (s t : World) : Decidable (MarksExecuted approvalId call s t) := by
  unfold MarksExecuted
  infer_instance

instance (call : TransferCall) (h : List (World × World)) (s t : World) :
    Decidable (UsesApproval env approvalId call h s t) := by
  unfold UsesApproval
  infer_instance

instance (e : ℕ × World × World) : Decidable (TransfersOn env approvalId c e) := by
  unfold TransfersOn
  infer_instance

instance (c : TransferConfig) : (m : Move TransferCall World) → Decidable (Alone env approvalId c m)
  | .start _ _ => .isTrue trivial
  | .interfere _ => .isTrue trivial
  | .run _ => by
    unfold Alone
    infer_instance

/-! ### Steps -/

theorem ApprovalEvolves.refl (r : AssetApprovalRow) : ApprovalEvolves r r := ⟨rfl, rfl, fun h => h⟩

theorem ApprovalEvolves.trans {r r' r'' : AssetApprovalRow} (h : ApprovalEvolves r r')
    (h' : ApprovalEvolves r' r'') : ApprovalEvolves r r'' :=
  ⟨h'.id.trans h.id, h'.target.trans h.target, fun hr => h'.executed (h.executed hr)⟩

theorem approvalsEvolve_mark (s : World) : ApprovalsEvolve s (markApprovalIn approvalId s) := by
  unfold markApprovalIn
  split
  · exact .refl ApprovalEvolves.refl _
  · exact .update ApprovalEvolves.refl (fun _ => rfl) fun r _ => ⟨rfl, rfl, fun _ => rfl⟩

theorem TransferCall.Effect.evolves (he : call.Effect env h s t) : ApprovalsEvolve s t := by
  rcases he with hk | ⟨approvalId, rfl⟩ | ⟨besu, p, wallet, -, -, -, -, rfl⟩
  · exact .of_eq ApprovalEvolves.refl hk.approvals
  · exact approvalsEvolve_mark s
  · exact .of_eq ApprovalEvolves.refl rfl

theorem transfer_discipline (env : Environment) :
    (transferSystem env).Discipline UniqueApprovals ApprovalsEvolve where
  body call := (transfer_recalls env call).obeys fun _ _ _ _ he => he.evolves
  interfere _ _ _ h := h
  keep _ _ hs h := h.unique hs

theorem not_mines_of_eq (h : t.ledger = s.ledger) : ¬ Mines s t := by
  simp [Mines, h]

theorem markApprovalIn_ledger (s : World) : (markApprovalIn approvalId s).ledger = s.ledger := by
  unfold markApprovalIn
  split <;> rfl

/-- Only the transaction of a call confirms a transfer. -/
theorem TransferCall.Effect.submission (he : call.Effect env h s t) (hm : Mines s t) :
    Submission env call h s t := by
  rcases he with hk | ⟨approvalId, rfl⟩ | hsubmission
  · exact absurd hm (not_mines_of_eq hk.ledger)
  · exact absurd hm (not_mines_of_eq (markApprovalIn_ledger s))
  · exact hsubmission

/-- Once the call submits, the approval behind its transfer is known for good. -/
theorem Submission.behind {h' : List (World × World)} (hs : Submission env call h s t)
    (hh : h <+: h') : approvalBehind env call h' = approvalBehind env call h := by
  obtain ⟨besu, p, wallet, hp, -⟩ := hs
  simp only [approvalBehind, hp, preparedBy_mono hp hh]

theorem IsExecuted.evolves (he : ApprovalsEvolve s t) (hs : IsExecuted approvalId s) :
    IsExecuted approvalId t := by
  obtain ⟨r, hr, hid, hstatus⟩ := hs
  obtain ⟨r', hr', hevolves⟩ := he.rows r hr
  exact ⟨r', hr', hevolves.id.trans hid, hevolves.executed hstatus⟩

/-- The wallet of a submission with a recipient is the recipient's. -/
theorem wallet_eq {besu : BesuConfig} {recipient : IdentityRow} {wallet : String}
    (h : toCustodianWallet env besu (some recipient) = some wallet) :
    wallet = deriveIdentityWallet env (besu.privateKey.getD "") recipient.did := by
  simp only [toCustodianWallet] at h
  split at h
  · rename_i hkey
    simp [operatorAddress, hkey] at h
  · exact (Option.some.inj h).symm

theorem recipient_of_matches {row : AssetApprovalRow} {recipient : Option IdentityRow}
    {target : String} (hm : approvalMatchesTarget (some row) recipient = true)
    (htarget : row.targetIdentityId = some target) :
    ∃ identity, recipient = some identity ∧ identity.id = target := by
  simp only [approvalMatchesTarget, htarget, Option.isNone_some, Bool.false_or,
    Option.any_eq_true, beq_iff_eq, Option.some.injEq] at hm
  obtain ⟨identity, rfl, hid⟩ := hm
  exact ⟨identity, rfl, hid.symm⟩

/-- A transfer on an approval that names a recipient goes to that recipient. -/
theorem Submission.goesTo (hs : Submission env call h s t) {row : AssetApprovalRow}
    (hrow : approvalBehind env call h = some row) : (∃ e ∈ h, row ∈ e.1.assetApprovals) ∧
      ∀ target, row.targetIdentityId = some target →
        ∃ identity, identity.id = target ∧ Found h identity ∧ GoesTo env identity s t := by
  obtain ⟨besu, p, wallet, hp, hallowed, hbesu, hwallet, rfl⟩ := hs
  simp only [approvalBehind, hp, Option.ite_none_right_eq_some] at hrow
  obtain ⟨hsensitive, hrow⟩ := hrow
  obtain ⟨row', hrow', -, hmatches, hread⟩ := hallowed.approval hsensitive
  obtain rfl := Option.some.inj (hrow.symm.trans hrow')
  refine ⟨hread, fun target htarget => ?_⟩
  obtain ⟨identity, hrecipient, hid⟩ := recipient_of_matches hmatches htarget
  rw [hrecipient] at hwallet
  refine ⟨identity, hid, hallowed.recipient identity hrecipient, besu, p.asset.assetId, hbesu, ?_⟩
  rw [← wallet_eq hwallet]
  exact Besu.submitIn_submits besu _ s

theorem Submission.mono {h' : List (World × World)} (hs : Submission env call h s t)
    (hh : h <+: h') : Submission env call h' s t := by
  obtain ⟨besu, p, wallet, hp, hallowed, hrest⟩ := hs
  exact ⟨besu, p, wallet, preparedBy_mono hp hh, hallowed.mono hh.subset, hrest⟩

/-! ### Runs -/

theorem transfersOn_iff {e : ℕ × World × World} {p : Promise TransferReply}
    (hi : c.threads e.1 = some ⟨call, p⟩) : TransfersOn env approvalId c e ↔
      UsesApproval env approvalId call (c.history e.1) e.2.1 e.2.2 := by
  simp [TransfersOn, hi]

theorem TransfersOn.mines {e : ℕ × World × World} (hon : TransfersOn env approvalId c e) :
    Mines e.2.1 e.2.2 := by
  obtain ⟨th, -, hm, -⟩ := hon
  exact hm

section

variable {C : TransferConfig → Move TransferCall World → Prop}

theorem submission_of_mines (hc : (transferSystem env).Reach C w₀ c) {e : ℕ × World × World}
    (he : e ∈ c.log) (hm : Mines e.2.1 e.2.2) : ∃ call p, c.threads e.1 = some ⟨call, p⟩ ∧
      Submission env call (c.history e.1) e.2.1 e.2.2 := by
  obtain ⟨c₀, call, hran⟩ := hc.ran he
  obtain ⟨p, hp⟩ := hran.thread_eq
  have hsubmission := (hran.recalls (transfer_recalls env)).submission hm
  exact ⟨call, p, hp, hsubmission.mono (hran.continues.history e.1)⟩

/-- Whether a transfer is on the approval does not change later. -/
theorem transfersOn_stable (hc : (transferSystem env).Reach C w₀ c) {e : ℕ × World × World}
    (he : e ∈ c.log) (hcont : System.Continues c c') (hon : TransfersOn env approvalId c' e) :
    TransfersOn env approvalId c e := by
  obtain ⟨call, p, hp, hsubmission⟩ := submission_of_mines hc he hon.mines
  obtain ⟨q, hq, -⟩ := hcont.threads _ _ hp
  rw [transfersOn_iff hq, UsesApproval, hsubmission.behind (hcont.history e.1)] at hon
  exact (transfersOn_iff hp).mpr hon

theorem goesTo_of_transfersOn (hids : UniqueApprovals w₀) (hc : (transferSystem env).Reach C w₀ c)
    {e : ℕ × World × World} (he : e ∈ c.log) (hon : TransfersOn env approvalId c e)
    {row : AssetApprovalRow} (hrow : row ∈ c.shared.assetApprovals) (hid : row.id = approvalId)
    {target : String} (htarget : row.targetIdentityId = some target) :
    ∃ identity, identity.id = target ∧ Found (c.history e.1) identity ∧
      GoesTo env identity e.2.1 e.2.2 := by
  obtain ⟨call, p, hp, hsubmission⟩ := submission_of_mines hc he hon.mines
  obtain ⟨-, row', hrow', hid'⟩ := (transfersOn_iff hp).mp hon
  obtain ⟨⟨e', he', hread⟩, hgoes⟩ := hsubmission.goesTo (Option.mem_toList.mp hrow')
  obtain ⟨-, hlater⟩ := (transfer_discipline env).recalled hids hc he'
  obtain ⟨row'', hmem, hevolves⟩ := Table.exists_evolved ApprovalEvolves.refl
    (fun _ _ _ => ApprovalEvolves.trans) (fun _ _ => id) hlater hread
  have hunique : UniqueApprovals c.shared := (transfer_discipline env).shared_inv hids hc
  obtain rfl : row'' = row := hunique.eq hmem hrow ((hevolves.id.trans hid').trans hid.symm)
  exact hgoes target (hevolves.target.symm.trans htarget)

end

theorem marking : (transferSystem env).Marking (Alone env approvalId) w₀ (MarksExecuted approvalId)
    (IsExecuted approvalId) where
  keep _ _ _ _ _ hc _ hi hs :=
    hs.evolves ((hc.recalls (transfer_recalls env) hi).step _).1.evolves
  interfere _ _ hst hs := hs.evolves hst
  mark _ _ _ _ _ _ _ _ hmark := hmark.2

theorem once_of_alone (hc : (transferSystem env).Reach (Alone env approvalId) w₀ c) :
    System.AtMostOnce (TransfersOn env approvalId c) c.log := by
  apply marking.once_of_stable hc
  · exact fun c c' e hc hcont he hon => transfersOn_stable hc he hcont hon
  · intro c c' i e hc hm hs hlog hon
    have hcont := hs.continues
    cases hs with
    | @run _ call effect next hi =>
      obtain rfl := List.singleton_injective (List.append_cancel_left hlog)
      rw [transfersOn_iff (Function.update_self ..)] at hon
      have heffect := ((hc.recalls (transfer_recalls env) hi).step c.shared).1
      have hsubmission := heffect.submission hon.1
      rw [UsesApproval, hsubmission.behind (hcont.history i)] at hon
      exact hm call effect next hi hon

theorem approval_authorizesOne (hids : UniqueApprovals w₀)
    (hc : (transferSystem env).Reach (Alone env approvalId) w₀ c) :
    AuthorizesOne env approvalId c where
  once := once_of_alone hc
  target _ he hon _ hrow hid _ htarget := goesTo_of_transfersOn hids hc he hon hrow hid htarget

/-! ### Runs of the sample deployment -/

def approvalWorld : World :=
  { partyWorld with
    identityRoles := partyWorld.identityRoles ++ [{ identityId := "sender", roleName := "MANAGER" }]
    rolePermissions := [{ roleName := "MANAGER", permissionKey := "asset:transfer" }]
    assets :=
      [{ id := "asset"
         assetId := "ASSET-1"
         classification := .critical
         ownerIdentityId := "holder"
         custodianIdentityId := "sender"
         tokenId := some "1"
         status := .active }]
    assetApprovals :=
      [{ id := "approval"
         assetId := "asset"
         requesterIdentityId := "sender"
         action := "TRANSFER"
         targetIdentityId := none
         status := .approved
         createdAt := 1 }] }

def transferTo (recipientIdentityId : String) : TransferCall where
  user := some { id := 2, isAdmin := false }
  input := { assetId := "asset", recipientIdentityId := some recipientIdentityId }

def authorizedRun : Option TransferConfig :=
  (transferSystem partyEnvironment).exec (Alone partyEnvironment "approval")
    (Config.initial approvalWorld)
    (System.sequence 0 [(transferTo "recipient", 20), (transferTo "holder", 11)])

set_option maxRecDepth 8000 in
theorem approval_authorizesOne_sample : ∃ c : TransferConfig,
    (∃ e ∈ c.log, TransfersOn partyEnvironment "approval" c e) ∧
      AuthorizesOne partyEnvironment "approval" c := by
  have hrun : authorizedRun.isSome := by rfl
  have hon : ∃ e ∈ (authorizedRun.get hrun).log,
      TransfersOn partyEnvironment "approval" (authorizedRun.get hrun) e := by
    decide +revert
  exact ⟨_, hon, approval_authorizesOne (by exact List.nodup_singleton _) (System.exec_reach
    (fun m hm => System.harmless_of_mem_sequence hm) (Option.some_get hrun).symm)⟩

def approvalRun (moves : List (Move TransferCall World)) : Option TransferConfig :=
  (transferSystem partyEnvironment).exec (fun _ _ => True) (Config.initial approvalWorld) moves

/-- Both calls find the approval APPROVED before either submits its transfer. -/
def transferRace : List (Move TransferCall World) :=
  System.sequence 0 [(transferTo "recipient", 13), (transferTo "holder", 14)] ++ [.run 0]

/-- The database fails after the first transfer, and the call is made again for another
recipient. -/
def transferRetry : List (Move TransferCall World) :=
  System.sequence 0 [(transferTo "recipient", 16)] ++
    [.interfere fun w => { w with databaseFails := true }] ++ List.replicate 5 (.run 0) ++
      [.interfere fun w => { w with databaseFails := false }] ++
        System.sequence 1 [(transferTo "holder", 14)]

theorem harmless_of_mem_run {moves : List (Move TransferCall World)}
    (hmoves : moves ∈ [transferRace, transferRetry]) {m : Move TransferCall World} (hm : m ∈ moves) :
    (transferSystem partyEnvironment).Harmless m := by
  have hinterfere : ∀ b, (transferSystem partyEnvironment).Harmless
      (.interfere fun w => { w with databaseFails := b }) := fun b s =>
    .of_eq ApprovalEvolves.refl rfl
  have hrun : ∀ i, (transferSystem partyEnvironment).Harmless (.run i) := fun i => trivial
  simp only [List.mem_cons, List.not_mem_nil, or_false] at hmoves
  rcases hmoves with rfl | rfl
  · rcases List.mem_append.mp hm with hm | hm
    · exact System.harmless_of_mem_sequence hm
    · exact List.mem_singleton.mp hm ▸ hrun 0
  · simp only [transferRetry, List.mem_append, List.mem_singleton, List.mem_replicate] at hm
    rcases hm with (((hm | rfl) | ⟨-, rfl⟩) | rfl) | hm
    · exact System.harmless_of_mem_sequence hm
    · exact hinterfere true
    · exact hrun 0
    · exact hinterfere false
    · exact System.harmless_of_mem_sequence hm

set_option maxRecDepth 8000 in
theorem exists_twice {moves : List (Move TransferCall World)}
    (hmoves : moves ∈ [transferRace, transferRetry]) : ∃ c,
    (transferSystem partyEnvironment).Reachable approvalWorld c ∧ approvalRun moves = some c ∧
      ¬ AuthorizesOne partyEnvironment "approval" c := by
  have hrun : ∀ moves ∈ [transferRace, transferRetry], (approvalRun moves).isSome := by decide
  have htwice : ∀ moves ∈ [transferRace, transferRetry], ∀ c ∈ (approvalRun moves).toList,
      (∃ e ∈ c.log, e.1 = 0 ∧ TransfersOn partyEnvironment "approval" c e) ∧
        ∃ e ∈ c.log, e.1 = 1 ∧ TransfersOn partyEnvironment "approval" c e := by
    decide
  obtain ⟨c, hc⟩ := Option.isSome_iff_exists.mp (hrun moves hmoves)
  obtain ⟨⟨e, he, hfirst, hon⟩, e', he', hsecond, hon'⟩ :=
    htwice moves hmoves c (Option.mem_toList.mpr hc)
  refine ⟨c, System.exec_reach (fun m hm => harmless_of_mem_run hmoves hm) hc, hc, fun h => ?_⟩
  rw [h.once.eq_of_mem he he' hon hon', hsecond] at hfirst
  cases hfirst

/-- Two transfers are confirmed on one approval: by overlapping calls, and by a retry after a
failed mark. -/
theorem not_approval_authorizesOne :
    (∃ c, (transferSystem partyEnvironment).Reachable approvalWorld c ∧
      approvalRun transferRace = some c ∧ ¬ AuthorizesOne partyEnvironment "approval" c) ∧
    ∃ c, (transferSystem partyEnvironment).Reachable approvalWorld c ∧
      approvalRun transferRetry = some c ∧ ¬ AuthorizesOne partyEnvironment "approval" c :=
  ⟨exists_twice (by simp), exists_twice (by simp)⟩

end Sampraan.Assets
