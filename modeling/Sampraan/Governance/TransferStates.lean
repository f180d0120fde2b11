import Sampraan.Governance.TransferAuthority
import Sampraan.Library.ActThenMark

/-! How the status of one transfer request moves, and how often it is carried out on the chain. -/

namespace Sampraan.Governance.Transfer

open Backend Library
open CryptoAssurance (Actor)

variable {env : Environment} {w₀ : World} {c : TransferConfig} {s t : World} {requestId : String}
  {h : List (World × World)}

/-! ### The state machine -/

inductive Advances : TransferRequestStatus → TransferRequestStatus → Prop
  | accept : Advances .pending .accepted
  | approve : Advances .accepted .approved
  | reject : Advances .accepted .rejected
  | execute : Advances .approved .executed

/-- The row of the request stays as it is, or its status advances. -/
def Moves (requestId : String) (s t : World) : Prop :=
  ∀ r ∈ s.assetTransferRequests, ∀ r' ∈ t.assetTransferRequests,
    r.id = requestId → r'.id = requestId → r' = r ∨ Advances r.status r'.status

/-- The call executes the request, and its statement confirms a transaction. -/
def TransfersFor (requestId : String) (call : TransferCall) (s t : World) : Prop :=
  match call with
  | .execute _ input => input.requestId = requestId ∧ Mines s t
  | _ => False

def MarksExecuted (requestId : String) (call : TransferCall) (s t : World) : Prop :=
  match call with
  | .execute _ input => input.requestId = requestId ∧ ¬ HasStatus requestId .executed s ∧
      HasStatus requestId .executed t
  | _ => False

/-- The status only moves forward, and at most one transfer is confirmed. -/
structure Governed (requestId : String) (c : TransferConfig) : Prop where
  forward : ∀ e ∈ c.log, Moves requestId e.2.1 e.2.2
  once : System.AtMostOnce (c.Did (TransfersFor requestId)) c.log

/-! ### The guards that the updates lack -/

/-- The request that a call updates, and the status that it has checked. -/
def TransferCall.checked : TransferCall → Option (String × TransferRequestStatus)
  | .request _ _ _ => none
  | .accept _ input => some (input.requestId, .pending)
  | .approve _ input => some (input.requestId, .accepted)
  | .execute _ input => some (input.requestId, .approved)

/-- An update that changes the request finds it in the status that its call has checked. -/
def StillChecked (requestId : String) (call : TransferCall) (s t : World) : Prop :=
  t.assetTransferRequests ≠ s.assetTransferRequests → ∀ checked ∈ call.checked.toList,
    checked.1 = requestId → ∀ r ∈ s.assetTransferRequests, r.id = requestId → r.status = checked.2

/-- A transfer is confirmed only while the request is APPROVED and no call that has had one
confirmed for it has yet to write EXECUTED. -/
def Alone (requestId : String) (c : TransferConfig) (call : TransferCall) (s t : World) : Prop :=
  TransfersFor requestId call s t → HasStatus requestId .approved s ∧
    ∀ e ∈ c.log, ¬ c.Outstanding (TransfersFor requestId) (MarksExecuted requestId) e

def Orderly (requestId : String) (c : TransferConfig) (m : Move TransferCall World) : Prop :=
  System.Meets (StillChecked requestId) c m ∧ System.Meets (Alone requestId c) c m

instance (status : TransferRequestStatus) (w : World) : Decidable (HasStatus requestId status w) := by
  unfold HasStatus
  infer_instance

instance (call : TransferCall) (s t : World) : Decidable (TransfersFor requestId call s t) := by
  unfold TransfersFor
  split <;> infer_instance

instance (call : TransferCall) (s t : World) : Decidable (MarksExecuted requestId call s t) := by
  unfold MarksExecuted
  split <;> infer_instance

instance (call : TransferCall) (s t : World) : Decidable (StillChecked requestId call s t) := by
  unfold StillChecked
  infer_instance

instance (call : TransferCall) (s t : World) : Decidable (Alone requestId c call s t) := by
  unfold Alone
  infer_instance

instance (m : Move TransferCall World) : Decidable (Orderly requestId c m) := by
  unfold Orderly
  infer_instance

/-! ### Steps -/

theorem moves_of_same (hids : UniqueRequests s)
    (h : ∀ r' ∈ t.assetTransferRequests, r'.id = requestId → r' ∈ s.assetTransferRequests) :
    Moves requestId s t := by
  intro r hr r' hr' hid hid'
  exact .inl (hids.eq (h r' hr' hid') hr (hid'.trans hid.symm))

theorem moves_insert (hids : UniqueRequests s) {row : AssetTransferRequestRow}
    (h : insertAssetTransferRequest row s = some t) : Moves requestId s t := by
  simp only [insertAssetTransferRequest, Option.ite_none_left_eq_some, Option.some.injEq] at h
  obtain ⟨hfresh, rfl⟩ := h
  intro r hr r' hr' hid hid'
  rcases List.mem_append.mp hr' with hr' | hr'
  · exact .inl (hids.eq hr' hr (hid'.trans hid.symm))
  · rw [List.mem_singleton.mp hr'] at hid'
    exact absurd (List.any_eq_true.mpr ⟨r, hr, by simp [hid, hid']⟩) hfresh

theorem moves_update (hids : UniqueRequests s) {id : String} (status : TransferRequestStatus)
    {patch : AssetTransferRequestRow → AssetTransferRequestRow}
    (hadvances : ∀ r, r.status = status → Advances r.status (patch r).status)
    (hchecked : (updateTransferRequests id patch s).assetTransferRequests ≠ s.assetTransferRequests →
      id = requestId → ∀ r ∈ s.assetTransferRequests, r.id = requestId → r.status = status)
    (hpatch : ∀ r, (patch r).id = r.id) :
    Moves requestId s (updateTransferRequests id patch s) := by
  by_cases hsame : (updateTransferRequests id patch s).assetTransferRequests = s.assetTransferRequests
  · apply moves_of_same hids
    intro r' hr' _
    exact hsame ▸ hr'
  intro r hr r' hr' hid hid'
  obtain ⟨r₀, hr₀, rfl⟩ := Table.mem_update.mp hr'
  have hr₀id : r₀.id = requestId := by
    split at hid'
    · exact (hpatch r₀).symm.trans hid'
    · exact hid'
  obtain rfl : r₀ = r := hids.eq hr₀ hr (hr₀id.trans hid.symm)
  split
  · rename_i hm
    have hreq : id = requestId := (beq_iff_eq.mp hm).symm.trans hid
    exact .inr (hadvances _ (hchecked hsame hreq _ hr hid))
  · exact .inl rfl

theorem TransferCall.Effect.moves (hids : UniqueRequests s) {call : TransferCall}
    (he : call.Effect env h s t) (hchecked : StillChecked requestId call s t) :
    Moves requestId s t := by
  rcases he with hk | hw
  · apply moves_of_same hids
    intro r' hr' _
    exact hk.requests ▸ hr'
  cases call with
  | request user uuid input =>
    obtain ⟨row, hrow⟩ := hw
    exact moves_insert hids hrow
  | accept user input =>
    obtain ⟨actor, request, -, rfl⟩ := hw
    refine moves_update hids .pending ?_ ?_ fun _ => rfl
    · intro r hr
      rw [hr]
      exact .accept
    · intro hchanged
      exact hchecked hchanged _ (List.mem_singleton_self _)
  | approve user input =>
    obtain ⟨actor, request, -, rfl⟩ := hw
    refine moves_update hids .accepted ?_ ?_ fun _ => rfl
    · intro r hr
      rw [hr]
      simp only [decidedPatch]
      cases input.decision with
      | approved => exact .approve
      | rejected => exact .reject
    · intro hchanged
      exact hchecked hchanged _ (List.mem_singleton_self _)
  | execute user input =>
    obtain ⟨besu, request, asset, recipient, -, rfl | ⟨transactionHash, -, rfl⟩⟩ := hw
    · exact moves_of_same hids fun r' hr' _ => hr'
    · refine moves_update hids .approved ?_ ?_ fun _ => rfl
      · intro r hr
        rw [hr]
        exact .execute
      · intro hchanged
        exact hchecked hchanged _ (List.mem_singleton_self _)

/-- EXECUTED is final. -/
theorem Moves.executed (hm : Moves requestId s t) (he : RequestsEvolve s t)
    (hs : HasStatus requestId .executed s) : HasStatus requestId .executed t := by
  obtain ⟨r, hr, hid, hstatus⟩ := hs
  obtain ⟨r', hr', hevolves⟩ := he.rows r hr
  have hid' : r'.id = requestId := hevolves.id.trans hid
  rcases hm r hr r' hr' hid hid' with rfl | hadvances
  · exact ⟨r', hr', hid', hstatus⟩
  · rw [hstatus] at hadvances
    cases hadvances

/-! ### Runs -/

theorem marking (hids : UniqueRequests w₀) : (transferSystem env).Marking (Orderly requestId) w₀
    (MarksExecuted requestId) (HasStatus requestId .executed) where
  keep c i call effect next hc hm hi hs := by
    have he := ((hc.recalls (transfer_recalls env) hi).step c.shared).1
    have hunique : UniqueRequests c.shared := (transfer_discipline env).shared_inv hids hc
    exact (he.moves hunique (hm.1 call effect next hi)).executed he.evolves hs
  interfere s t hst hs := by
    have hsame : t.assetTransferRequests = s.assetTransferRequests := hst
    rwa [HasStatus, hsame]
  mark c i call effect next _ _ _ hmark := by
    cases call with
    | execute user input => exact hmark.2.2
    | _ => exact hmark.elim

theorem transfer_governed (hids : UniqueRequests w₀)
    (hc : (transferSystem env).Reach (Orderly requestId) w₀ c) : Governed requestId c := by
  constructor
  · intro e he
    obtain ⟨c₀, call, hran⟩ := hc.ran he
    obtain ⟨effect, next, hi, heffect⟩ := hran.thread
    have hunique : UniqueRequests e.2.1 :=
      hran.shared ▸ (transfer_discipline env).shared_inv hids hran.reach
    have hchecked := hran.meets.1 call effect next hi
    rw [hran.shared, heffect] at hchecked
    exact (hran.recalls (transfer_recalls env)).moves hunique hchecked
  · apply (marking hids).once hc
    intro c i call effect next hc hm hi hact
    obtain ⟨happroved, hnone⟩ := hm.2 call effect next hi hact
    refine ⟨?_, hnone⟩
    rintro ⟨r, hr, hid, hexecuted⟩
    obtain ⟨r', hr', hid', hstatus⟩ := happroved
    have hunique : UniqueRequests c.shared := (transfer_discipline env).shared_inv hids hc
    obtain rfl : r = r' := hunique.eq hr hr' (hid.trans hid'.symm)
    rw [hexecuted] at hstatus
    cases hstatus

/-! ### Runs of the sample deployment -/

def orderlyRun : Option TransferConfig :=
  (transferSystem partyEnvironment).exec (Orderly "request") (Config.initial partyWorld) handoverMoves

theorem transfer_governed_sample : ∃ c : TransferConfig,
    (∃ e ∈ c.log, c.Did (TransfersFor "request") e) ∧ Governed "request" c := by
  have hrun : orderlyRun.isSome := by rfl
  have hdid : ∃ e ∈ (orderlyRun.get hrun).log,
      (orderlyRun.get hrun).Did (TransfersFor "request") e := by
    decide +revert
  exact ⟨_, hdid, transfer_governed (by exact List.nodup_nil) (System.exec_reach
    (fun m hm => System.harmless_of_mem_sequence hm) (Option.some_get hrun).symm)⟩

/-- Two decisions on one request: both calls find it ACCEPTED, and the later one overwrites the
other. -/
def decisionRace : List (Move TransferCall World) :=
  System.sequence 0
      [(handover "request" 2 "did:sampraan:recipient", 10), (.accept (some 3) ⟨"request"⟩, 7),
        (approveHandover "request" .approved, 4), (approveHandover "request" .rejected, 8)] ++
    [.run 2]

/-- Two executions of one request: the first stops right before its transaction and goes on after
the recipient has handed the asset back. -/
def executionRace : List (Move TransferCall World) :=
  System.sequence 0
      [(handover "request" 2 "did:sampraan:recipient", 10), (.accept (some 3) ⟨"request"⟩, 7),
        (approveHandover "request" .approved, 8), (.execute (some 2) ⟨"request"⟩, 9),
        (.execute (some 2) ⟨"request"⟩, 16), (handover "back" 3 "did:sampraan:sender", 10),
        (.accept (some 2) ⟨"back"⟩, 7), (approveHandover "back" .approved, 8),
        (.execute (some 3) ⟨"back"⟩, 16)] ++
    [.run 3]

set_option maxRecDepth 8000 in
/-- A decision is overwritten, and a request is carried out twice. -/
theorem not_transfer_governed :
    (∃ c, (transferSystem partyEnvironment).Reachable partyWorld c ∧
      ∃ e ∈ c.log, ¬ Moves "request" e.2.1 e.2.2) ∧
    ∃ c, (transferSystem partyEnvironment).Reachable partyWorld c ∧
      ¬ System.AtMostOnce (c.Did (TransfersFor "request")) c.log := by
  have hharmless : ∀ {i : ℕ} {calls : List (TransferCall × ℕ)} {last : ℕ},
      ∀ m ∈ System.sequence i calls ++ [.run last], (transferSystem partyEnvironment).Harmless m := by
    intro i calls last m hm
    rcases List.mem_append.mp hm with hm | hm
    · exact System.harmless_of_mem_sequence hm
    · rw [List.mem_singleton.mp hm]
      trivial
  have hdecisions : (transferRun decisionRace).isSome := by rfl
  have hexecutions : (transferRun executionRace).isSome := by rfl
  constructor
  · obtain ⟨e, he, r, hr, r', hr', hid, hid', hrejected, happroved⟩ :
        ∃ e ∈ ((transferRun decisionRace).get hdecisions).log,
          ∃ r ∈ e.2.1.assetTransferRequests, ∃ r' ∈ e.2.2.assetTransferRequests,
            r.id = "request" ∧ r'.id = "request" ∧ r.status = .rejected ∧ r'.status = .approved := by
      decide +revert
    refine ⟨_, System.exec_reach hharmless (Option.some_get hdecisions).symm, e, he, fun hm => ?_⟩
    rcases hm r hr r' hr' hid hid' with rfl | hadvances
    · rw [hrejected] at happroved
      cases happroved
    · rw [hrejected] at hadvances
      cases hadvances
  · obtain ⟨⟨e, he, hthird, hdid⟩, e', he', hfourth, hdid'⟩ :
        (∃ e ∈ ((transferRun executionRace).get hexecutions).log, e.1 = 3 ∧
          ((transferRun executionRace).get hexecutions).Did (TransfersFor "request") e) ∧
        ∃ e ∈ ((transferRun executionRace).get hexecutions).log, e.1 = 4 ∧
          ((transferRun executionRace).get hexecutions).Did (TransfersFor "request") e := by
      decide +revert
    refine ⟨_, System.exec_reach hharmless (Option.some_get hexecutions).symm, fun h => ?_⟩
    rw [h.eq_of_mem he he' hdid hdid', hfourth] at hthird
    cases hthird

end Sampraan.Governance.Transfer
