import Sampraan.Contracts.CustodyEvents
import Sampraan.Contracts.Roles
import Sampraan.Graph.Subgraph
import Sampraan.Library.Trail
import Mathlib.Data.List.Forall2

/-! The rows of the subgraph, one to an event: its transfers are the custody records of the registry but
for the forced ones, and its role events give back the roles. -/

namespace Sampraan.Graph

open Library Contracts

/-! ### The rows of an event -/

def transferRow (place : EventPlace) : IndexedEvent → Option AssetTransfer
  | .assetRegistered tokenId _ custodian _ _ _ => some
    { asset := toString tokenId
      kind := .mint
      fromCustodian := none
      toCustodian := custodian
      operator := place.transactionFrom
      transactionHash := place.transactionHash
      blockNumber := place.blockNumber
      blockTimestamp := place.blockTimestamp }
  | .assetAssigned tokenId _ custodian operator _ => some
    { asset := toString tokenId
      kind := .assignment
      fromCustodian := none
      toCustodian := custodian
      operator := operator
      transactionHash := place.transactionHash
      blockNumber := place.blockNumber
      blockTimestamp := place.blockTimestamp }
  | .assetTransferred tokenId _ fromCustodian toCustodian operator _ => some
    { asset := toString tokenId
      kind := .transfer
      fromCustodian := some fromCustodian
      toCustodian := toCustodian
      operator := operator
      transactionHash := place.transactionHash
      blockNumber := place.blockNumber
      blockTimestamp := place.blockTimestamp }
  | _ => none

/-- The two moves leave no row of their own among the events. -/
def eventRow (place : EventPlace) : IndexedEvent → Option BlockchainEvent
  | .roleGranted role account _ =>
    some (.of place "SampraanAccessControl" "RoleGranted" (rolePayload role account))
  | .roleRevoked role account _ =>
    some (.of place "SampraanAccessControl" "RoleRevoked" (rolePayload role account))
  | .identityRegistered wallet didDigest _ _ =>
    some (.of place "SampraanIdentityRegistry" "IdentityRegistered"
      ("wallet=" ++ toHexString wallet ++ " didDigest=" ++ toHexString didDigest))
  | .identityStatusChanged wallet _ oldStatus newStatus _ => do
    let oldName ← identityStatusNames[identityStatusNumber oldStatus]?
    let newName ← identityStatusNames[identityStatusNumber newStatus]?
    some (.of place "SampraanIdentityRegistry" "IdentityStatusChanged"
      ("wallet=" ++ toHexString wallet ++ " " ++ oldName ++ "->" ++ newName))
  | .assetRegistered tokenId _ custodian _ _ _ =>
    some (.of place "SampraanAssetRegistry" "AssetRegistered"
      ("tokenId=" ++ toString tokenId ++ " custodian=" ++ toHexString custodian))
  | .assetStatusChanged tokenId _ oldStatus newStatus _ _ => do
    let oldName ← statusNames[assetStatusNumber oldStatus]?
    let newName ← statusNames[assetStatusNumber newStatus]?
    some (.of place "SampraanAssetRegistry" "AssetStatusChanged"
      ("tokenId=" ++ toString tokenId ++ " " ++ oldName ++ "->" ++ newName))
  | .assetAssigned .. | .assetTransferred .. => none

section

variable {place : EventPlace} {store store' : EntityStore} {event : IndexedEvent}

theorem transferRow_asset {row : AssetTransfer} (h : transferRow place event = some row) :
    ∃ n : ℕ, row.asset = toString n := by
  cases event with
  | assetRegistered tokenId => exact ⟨tokenId, by obtain rfl := Option.some.inj h; rfl⟩
  | assetAssigned tokenId => exact ⟨tokenId, by obtain rfl := Option.some.inj h; rfl⟩
  | assetTransferred tokenId => exact ⟨tokenId, by obtain rfl := Option.some.inj h; rfl⟩
  | _ => cases h

theorem handle_transfers (h : handle place store event = some store') (id : String) :
    store'.transfers id =
      if id = place.id then (transferRow place event).or (store.transfers id) else store.transfers id := by
  cases event with
  | identityStatusChanged wallet didDigest oldStatus newStatus changedAt =>
    simp only [handle, handleIdentityStatusChanged, Option.bind_eq_bind, Option.bind_eq_some_iff] at h
    obtain ⟨oldName, -, newName, -, h⟩ := h
    obtain rfl := Option.some.inj h
    simp [transferRow]
  | assetStatusChanged tokenId assetIdDigest oldStatus newStatus operator changedAt =>
    simp only [handle, handleAssetStatusChanged, Option.bind_eq_bind, Option.bind_eq_some_iff] at h
    obtain ⟨oldName, -, newName, -, h⟩ := h
    obtain rfl := Option.some.inj h
    simp [transferRow]
  | roleGranted role account sender =>
    obtain rfl := Option.some.inj h
    simp [handleRoleGranted, transferRow]
  | roleRevoked role account sender =>
    obtain rfl := Option.some.inj h
    simp [handleRoleRevoked, transferRow]
  | identityRegistered wallet didDigest publicKeyDigest registeredAt =>
    obtain rfl := Option.some.inj h
    simp [handleIdentityRegistered, transferRow]
  | assetRegistered tokenId assetIdDigest custodian classificationDigest metadataDigest registeredAt =>
    obtain rfl := Option.some.inj h
    simp [handleAssetRegistered, transferRow, EntityStore.saveTransfer, Function.update_apply]
  | assetAssigned tokenId assetIdDigest custodian operator assignedAt =>
    obtain rfl := Option.some.inj h
    simp [handleAssetAssigned, handleMove, transferRow, EntityStore.saveTransfer, Function.update_apply]
  | assetTransferred tokenId assetIdDigest fromCustodian toCustodian operator transferredAt =>
    obtain rfl := Option.some.inj h
    simp [handleAssetTransferred, handleMove, transferRow, EntityStore.saveTransfer,
      Function.update_apply]

theorem handle_events (h : handle place store event = some store') (id : String) :
    store'.events id =
      if id = place.id then (eventRow place event).or (store.events id) else store.events id := by
  cases event with
  | identityStatusChanged wallet didDigest oldStatus newStatus changedAt =>
    simp only [handle, handleIdentityStatusChanged, Option.bind_eq_bind, Option.bind_eq_some_iff] at h
    obtain ⟨oldName, hold, newName, hnew, h⟩ := h
    obtain rfl := Option.some.inj h
    simp [eventRow, hold, hnew, EntityStore.saveEvent, Function.update_apply]
  | assetStatusChanged tokenId assetIdDigest oldStatus newStatus operator changedAt =>
    simp only [handle, handleAssetStatusChanged, Option.bind_eq_bind, Option.bind_eq_some_iff] at h
    obtain ⟨oldName, hold, newName, hnew, h⟩ := h
    obtain rfl := Option.some.inj h
    simp [eventRow, hold, hnew, EntityStore.saveEvent, Function.update_apply]
  | roleGranted role account sender =>
    obtain rfl := Option.some.inj h
    simp [handleRoleGranted, eventRow, EntityStore.saveEvent, Function.update_apply]
  | roleRevoked role account sender =>
    obtain rfl := Option.some.inj h
    simp [handleRoleRevoked, eventRow, EntityStore.saveEvent, Function.update_apply]
  | identityRegistered wallet didDigest publicKeyDigest registeredAt =>
    obtain rfl := Option.some.inj h
    simp [handleIdentityRegistered, eventRow, EntityStore.saveEvent, Function.update_apply]
  | assetRegistered tokenId assetIdDigest custodian classificationDigest metadataDigest registeredAt =>
    obtain rfl := Option.some.inj h
    simp [handleAssetRegistered, eventRow, EntityStore.saveEvent, Function.update_apply]
  | assetAssigned tokenId assetIdDigest custodian operator assignedAt =>
    obtain rfl := Option.some.inj h
    simp [handleAssetAssigned, handleMove, eventRow]
  | assetTransferred tokenId assetIdDigest fromCustodian toCustodian operator transferredAt =>
    obtain rfl := Option.some.inj h
    simp [handleAssetTransferred, handleMove, eventRow]

end

section

variable {governance : Address} {accessControl : SampraanAccessControl} {history : List Sealed}
  {s : Chain} {store : EntityStore}

theorem IsSealed.ids (h : IsSealed governance accessControl history s) :
    (history.filterMap Sealed.report).Pairwise fun a b => a.1.id ≠ b.1.id :=
  h.places.imp fun hne heq => hne (id_eq_iff.mp heq)

theorem transfers_filed (h : IsSealed governance accessControl history s)
    (hindex : index history = some store) :
    Filed (fun r => r.1.id) (fun r => transferRow r.1 r.2) (history.filterMap Sealed.report)
      store.transfers :=
  replay_filed EntityStore.transfers (fun _ => rfl) (fun _ _ _ htake => handle_transfers htake) h.ids
    hindex

theorem events_filed (h : IsSealed governance accessControl history s)
    (hindex : index history = some store) :
    Filed (fun r => r.1.id) (fun r => eventRow r.1 r.2) (history.filterMap Sealed.report)
      store.events :=
  replay_filed EntityStore.events (fun _ => rfl) (fun _ _ _ htake => handle_events htake) h.ids hindex

end

/-! ### Custody records -/

/-- The record that a call adds to the history of the token, and whether governance forced the move. -/
def custodyRecord (n : ℕ) (m : Sealed) : Option (CustodyRecord × Bool) :=
  match m.call.1.2 with
  | .assetRegistry (.registerAsset _ custodian _ _) =>
    if m.call.2.1.assetRegistry.nextTokenId = n then
      some ({ fromCustodian := 0
              toCustodian := custodian
              operator := m.call.1.1.sender
              atTime := uint64 m.call.1.1.timestamp }, false)
    else none
  | .assetRegistry (.assignAsset tokenId custodian) =>
    if tokenId = n then
      some (SampraanAssetRegistry.moveRecord m.call.1.1 m.call.2.1.assetRegistry tokenId custodian, false)
    else none
  | .assetRegistry (.transferCustody tokenId toCustodian) =>
    if tokenId = n then
      some (SampraanAssetRegistry.moveRecord m.call.1.1 m.call.2.1.assetRegistry tokenId toCustodian,
        false)
    else none
  | .assetRegistry (.governanceForceTransfer tokenId toCustodian _) =>
    if tokenId = n then
      some (SampraanAssetRegistry.moveRecord m.call.1.1 m.call.2.1.assetRegistry tokenId toCustodian,
        true)
    else none
  | _ => none

section

variable {governance : Address} {view : View} {msg : Msg} {r r' : SampraanAssetRegistry} {n : ℕ}

theorem registerAsset_pushes {d classificationDigest metadataDigest : Bytes32} {custodian : Address}
    (h : SampraanAssetRegistry.registerAsset view msg d custodian classificationDigest metadataDigest r =
      .ok r') :
    SampraanAssetRegistry.Pushes r.nextTokenId
      { fromCustodian := 0
        toCustodian := custodian
        operator := msg.sender
        atTime := uint64 msg.timestamp } r r' := by
  simp only [SampraanAssetRegistry.registerAsset, SampraanAssetRegistry.onlyAssetManager, bind_assoc,
    revertIf_bind, checkedAdd_bind] at h
  obtain ⟨-, -, -, -, -, -, -, h⟩ := h
  obtain ⟨s', hmint, h⟩ := bind_eq_ok.mp h
  obtain ⟨-, -, balances, rfl⟩ := SampraanAssetRegistry.mint_ok hmint
  rw [pure_eq_ok] at h
  subst h
  rfl

theorem history_of_pushes {tokenId : ℕ} {record : CustodyRecord} {forced : Bool}
    (h : SampraanAssetRegistry.Pushes tokenId record r r') :
    r'.custodyHistory n = r.custodyHistory n ++
      ((if tokenId = n then some (record, forced) else none).toList.map Prod.fst) := by
  rw [h]
  by_cases hn : tokenId = n
  · subst hn
    simp
  · rw [Function.update_of_ne (Ne.symm hn), if_neg hn]
    simp

theorem history_step {place : EventPlace} {s t : Chain} {call : SampraanAssetRegistry.Call}
    (h : SampraanAssetRegistry.run governance view msg s.assetRegistry call = .ok r') :
    r'.custodyHistory n = s.assetRegistry.custodyHistory n ++
      (custodyRecord n ⟨place, (msg, .assetRegistry call), s, t⟩).toList.map Prod.fst := by
  have hdoes := SampraanAssetRegistry.run_does h
  have hquiet (hsame : r'.custodyHistory = s.assetRegistry.custodyHistory)
      (hnone : custodyRecord n ⟨place, (msg, .assetRegistry call), s, t⟩ = none) :
      r'.custodyHistory n = s.assetRegistry.custodyHistory n ++
        (custodyRecord n ⟨place, (msg, .assetRegistry call), s, t⟩).toList.map Prod.fst := by
    rw [hnone, hsame]
    exact (List.append_nil _).symm
  cases call with
  | registerAsset d custodian classificationDigest metadataDigest =>
    exact history_of_pushes (registerAsset_pushes h)
  | assignAsset tokenId custodian =>
    exact history_of_pushes (SampraanAssetRegistry.assignAsset_pushes h)
  | transferCustody tokenId toCustodian =>
    exact history_of_pushes (SampraanAssetRegistry.transferCustody_pushes h)
  | governanceForceTransfer tokenId toCustodian reason =>
    exact history_of_pushes (SampraanAssetRegistry.governanceForceTransfer_pushes h)
  | activateAsset tokenId => exact hquiet hdoes.2.custodyHistory rfl
  | suspendAsset tokenId => exact hquiet hdoes.2.custodyHistory rfl
  | restoreAsset tokenId => exact hquiet hdoes.2.custodyHistory rfl
  | revokeAsset tokenId => exact hquiet hdoes.2.custodyHistory rfl
  | flagAnomaly target tokenId reason => exact hquiet hdoes.2.2.custodyHistory rfl
  | raiseDispute tokenId evidenceHash reason => exact hquiet hdoes.2.2.custodyHistory rfl
  | resolveDispute disputeId upheld reason => exact hquiet hdoes.2.2.custodyHistory rfl
  | storeAuditReportHash reportHash => exact hquiet hdoes.2.custodyHistory rfl
  | governancePause => exact hquiet hdoes.2.custodyHistory rfl
  | governanceUnpause => exact hquiet hdoes.2.custodyHistory rfl
  | governanceBurnNFT tokenId reason => exact hquiet hdoes.2.custodyHistory rfl
  | _ => exact hdoes.elim

end

/-! ### The transfers of a token -/

def transferRows (n : ℕ) (history : List Sealed) (store : EntityStore) : List AssetTransfer :=
  (history.filterMap Sealed.report).filterMap fun r =>
    (store.transfers r.1.id).filter fun row => row.asset == toString n

/-- The mint has no previous custodian in either; the other rows name theirs when the event does. -/
structure SameMove (record : CustodyRecord) (row : AssetTransfer) : Prop where
  toCustodian : row.toCustodian = record.toCustodian
  fromCustodian : ∀ a ∈ row.fromCustodian, a = record.fromCustodian
  operator : row.kind ≠ .mint → row.operator = record.operator
  atTime : record.atTime = uint64 row.blockTimestamp

structure TransfersMirrored (n : ℕ) (history : List Sealed) (registry : SampraanAssetRegistry)
    (store : EntityStore) : Prop where
  records : registry.custodyHistory n = (history.filterMap (custodyRecord n)).map Prod.fst
  rows : List.Forall₂ SameMove
    (((history.filterMap (custodyRecord n)).filter fun record => !record.2).map Prod.fst)
    (transferRows n history store)

theorem filterMap_snoc {α β : Type} {f : α → Option β} {l : List α} {a : α} :
    (l ++ [a]).filterMap f = l.filterMap f ++ (f a).toList := by
  rw [List.filterMap_append]
  cases hf : f a <;> simp [hf]

theorem forall₂_filterMap {α β γ : Type} {R : β → γ → Prop} {f : α → Option β} {g : α → Option γ}
    {l : List α} (h : ∀ a ∈ l, Option.Rel R (f a) (g a)) :
    List.Forall₂ R (l.filterMap f) (l.filterMap g) := by
  apply List.rel_filterMap (R := fun a b => a ∈ l ∧ a = b)
  · rintro a b ⟨ha, rfl⟩
    exact h a ha
  · exact List.forall₂_same.mpr fun a ha => ⟨ha, rfl⟩

/-- The record and the row of one call. -/
theorem sameMove_of_call {n : ℕ} {m : Sealed} (htime : m.place.blockTimestamp = m.call.1.1.timestamp) :
    Option.Rel SameMove
      (((custodyRecord n m).filter fun record => !record.2).map Prod.fst)
      (m.report.bind fun r => (transferRow r.1 r.2).filter fun row => row.asset == toString n) := by
  obtain ⟨place, ⟨msg, call⟩, s, t⟩ := m
  have htoken (tokenId : ℕ) : (toString tokenId == toString n) = decide (tokenId = n) := by
    rw [beq_eq_decide]
    exact decide_eq_decide.mpr toString_injective.eq_iff
  cases call with
  | accessControl call =>
    cases call with
    | _ =>
      simp only [custodyRecord, Sealed.report, Chain.indexedEvent,
        SampraanAccessControl.Call.indexedEvent]
      split <;> exact .none
  | identityRegistry call =>
    cases call <;> exact .none
  | assetRegistry call =>
    cases call with
    | registerAsset d custodian classificationDigest metadataDigest =>
      by_cases hn : s.assetRegistry.nextTokenId = n
      · simp only [custodyRecord, Sealed.report, Chain.indexedEvent,
          SampraanAssetRegistry.Call.indexedEvent, transferRow, Option.map_some, Option.bind_some,
          Option.filter_some, htoken, hn, decide_true, if_true, Bool.not_false]
        refine .some ⟨rfl, by simp, fun h => absurd rfl h, ?_⟩
        exact congrArg uint64 htime.symm
      · simp only [custodyRecord, Sealed.report, Chain.indexedEvent,
          SampraanAssetRegistry.Call.indexedEvent, transferRow, Option.map_some, Option.bind_some,
          Option.filter_some, htoken, hn, decide_false, if_false]
        exact .none
    | assignAsset tokenId custodian =>
      by_cases hn : tokenId = n
      · simp only [custodyRecord, Sealed.report, Chain.indexedEvent,
          SampraanAssetRegistry.Call.indexedEvent, transferRow, Option.map_some, Option.bind_some,
          Option.filter_some, htoken, hn, decide_true, if_true, Bool.not_false]
        exact .some ⟨rfl, by simp, fun _ => rfl, congrArg uint64 htime.symm⟩
      · simp only [custodyRecord, Sealed.report, Chain.indexedEvent,
          SampraanAssetRegistry.Call.indexedEvent, transferRow, Option.map_some, Option.bind_some,
          Option.filter_some, htoken, hn, decide_false, if_false]
        exact .none
    | transferCustody tokenId toCustodian =>
      by_cases hn : tokenId = n
      · simp only [custodyRecord, Sealed.report, Chain.indexedEvent,
          SampraanAssetRegistry.Call.indexedEvent, transferRow, Option.map_some, Option.bind_some,
          Option.filter_some, htoken, hn, decide_true, if_true, Bool.not_false]
        refine .some ⟨rfl, ?_, fun _ => rfl, congrArg uint64 htime.symm⟩
        rintro a ⟨⟩
        rfl
      · simp only [custodyRecord, Sealed.report, Chain.indexedEvent,
          SampraanAssetRegistry.Call.indexedEvent, transferRow, Option.map_some, Option.bind_some,
          Option.filter_some, htoken, hn, decide_false, if_false]
        exact .none
    | governanceForceTransfer tokenId toCustodian reason =>
      by_cases hn : tokenId = n
      · simp only [custodyRecord, hn, if_true, Option.filter_some, Bool.not_true]
        exact .none
      · simp only [custodyRecord, hn, if_false]
        exact .none
    | _ => exact .none

section

variable {governance : Address} {accessControl : SampraanAccessControl} {history : List Sealed}
  {s : Chain} {store : EntityStore}

theorem custodyHistory_records (h : IsSealed governance accessControl history s) (n : ℕ) :
    s.assetRegistry.custodyHistory n = (history.filterMap (custodyRecord n)).map Prod.fst := by
  refine h.run.noted (fun history s => s.assetRegistry.custodyHistory n =
    (history.filterMap (custodyRecord n)).map Prod.fst) rfl ?_
  rintro history ⟨place, ⟨msg, call⟩, s, t⟩ - - hrun ih
  have hdoes := Chain.run_does hrun
  rw [filterMap_snoc, List.map_append, ← ih]
  cases call with
  | accessControl call =>
    rw [hdoes.2.2]
    exact (List.append_nil _).symm
  | identityRegistry call =>
    rw [hdoes.2.2]
    exact (List.append_nil _).symm
  | assetRegistry call => exact history_step hdoes.1

def sampleMoves : List (Msg × Chain.Call) :=
  let admin : Msg := { sender := 0xA11CE, timestamp := 1700000000 }
  let governor : Msg := { sender := 0x60, timestamp := 1700000500 }
  [(admin, .identityRegistry (.registerIdentity 0xB0B 0xD1D 0x9B)),
    (admin, .identityRegistry (.verifyIdentity 0xB0B "papers seen")),
    (admin, .assetRegistry (.registerAsset 0xA55E7 0xB0B 0xC1 0x3D)),
    (governor, .assetRegistry (.governanceForceTransfer 1 0xCA401 "recovery")),
    (admin, .assetRegistry (.assignAsset 1 0xB0B))]

end

/-! ### Roles -/

def isRoleRow (role : Bytes32) (account : Address) (row : BlockchainEvent) : Bool :=
  row.contract == "SampraanAccessControl" && row.payload == rolePayload role account

def roleRows (role : Bytes32) (account : Address) (history : List Sealed) (store : EntityStore) :
    List BlockchainEvent :=
  (history.filterMap Sealed.report).filterMap fun r => (store.events r.1.id).filter (isRoleRow role account)

def isGrant (row : BlockchainEvent) : Bool := row.eventName == "RoleGranted"

def isRevocation (row : BlockchainEvent) : Bool := !isGrant row

theorem rolePayload_inj {role role' : Bytes32} {account account' : Address} :
    rolePayload role account = rolePayload role' account' ↔ role = role' ∧ account = account' := by
  constructor
  · intro h
    have hlist := congrArg String.toList h
    simp only [rolePayload, String.toList_append, List.append_assoc] at hlist
    obtain ⟨hrole, hrest⟩ := List.append_inj (List.append_cancel_left hlist) (by simp [toHexString])
    have haccount := List.append_cancel_left hrest
    exact ⟨digest_injective (String.toList_injective hrole),
      wallet_injective (String.toList_injective haccount)⟩
  · rintro ⟨rfl, rfl⟩
    rfl

/-- The row that a call leaves of the role of the account. -/
def roleRow (role : Bytes32) (account : Address) (m : Sealed) : Option BlockchainEvent :=
  m.report.bind fun r => (eventRow r.1 r.2).filter (isRoleRow role account)

def changeName (held : Bool) : String := if held then "RoleGranted" else "RoleRevoked"

theorem isGrant_changeName {place : EventPlace} {contract payload : String} {held : Bool} :
    isGrant (.of place contract (changeName held) payload) = held := by
  cases held <;> rfl

section

variable {role role' : Bytes32} {account account' : Address} {place : EventPlace}

theorem isRoleRow_of {name : String} :
    isRoleRow role account
        (.of place "SampraanAccessControl" name (rolePayload role' account')) =
      decide (role = role' ∧ account = account') := by
  simp only [isRoleRow, BlockchainEvent.of, beq_self_eq_true, Bool.true_and, beq_eq_decide]
  rw [decide_eq_decide, rolePayload_inj]
  exact and_congr eq_comm eq_comm

theorem filter_role_row (held : Bool) :
    (some (BlockchainEvent.of place "SampraanAccessControl" (changeName held)
        (rolePayload role' account'))).filter (isRoleRow role account) =
      (if role = role' ∧ account = account' then some held else none).map fun held =>
        .of place "SampraanAccessControl" (changeName held) (rolePayload role account) := by
  rw [Option.filter_some, isRoleRow_of]
  by_cases h : role = role' ∧ account = account'
  · rw [if_pos h, decide_eq_true h, h.1, h.2]
    rfl
  · rw [if_neg h, decide_eq_false h]
    rfl

theorem filter_other_row (contract : String) {name payload : String} (h : contract ≠ "SampraanAccessControl") :
    (some (BlockchainEvent.of place contract name payload)).filter (isRoleRow role account) = none := by
  simp [isRoleRow, BlockchainEvent.of, h]

/-- An event leaves a role row just when it tells a change of the role. -/
theorem filter_eventRow {event : IndexedEvent} :
    (eventRow place event).filter (isRoleRow role account) =
      (event.roleChange role account).map fun held =>
        .of place "SampraanAccessControl" (changeName held) (rolePayload role account) := by
  cases event with
  | roleGranted role' account' sender => exact filter_role_row true
  | roleRevoked role' account' sender => exact filter_role_row false
  | identityRegistered wallet didDigest publicKeyDigest registeredAt =>
    exact filter_other_row "SampraanIdentityRegistry" (by decide)
  | identityStatusChanged wallet didDigest oldStatus newStatus changedAt =>
    rw [eventRow]
    cases identityStatusNames[identityStatusNumber oldStatus]? with
    | none => rfl
    | some oldName =>
      cases identityStatusNames[identityStatusNumber newStatus]? with
      | none => rfl
      | some newName => exact filter_other_row "SampraanIdentityRegistry" (by decide)
  | assetRegistered tokenId assetIdDigest custodian classificationDigest metadataDigest registeredAt =>
    exact filter_other_row "SampraanAssetRegistry" (by decide)
  | assetStatusChanged tokenId assetIdDigest oldStatus newStatus operator changedAt =>
    obtain ⟨oldName, hold⟩ := statusNames_getElem? oldStatus
    obtain ⟨newName, hnew⟩ := statusNames_getElem? newStatus
    rw [eventRow, hold, hnew]
    exact filter_other_row "SampraanAssetRegistry" (by decide)
  | assetAssigned => rfl
  | assetTransferred => rfl

theorem roleRow_eq {m : Sealed} : roleRow role account m =
    (Chain.roleChange role account m.call).map fun held =>
      .of m.place "SampraanAccessControl" (changeName held) (rolePayload role account) := by
  rw [roleRow, Sealed.report, Chain.roleChange]
  cases Chain.indexedEvent m.call with
  | none => rfl
  | some event => exact filter_eventRow

end

section

variable {governance : Address} {accessControl : SampraanAccessControl} {history : List Sealed}
  {s : Chain} {store : EntityStore}

def sampleGrants : List (Msg × Chain.Call) :=
  let admin : Msg := { sender := 0xA11CE, timestamp := 1700000000 }
  [(admin, .accessControl (.grantRole auditorRole 0xB0B)),
    (admin, .accessControl (.grantRole auditorRole 0xB0B)),
    (admin, .accessControl (.revokeRole auditorRole 0xB0B))]

end

end Sampraan.Graph
