import Sampraan.Contracts.IndexedEvents
import Sampraan.Library.HexText
import Sampraan.Library.Replay

/-! The mappings of the subgraph: the entities that its handlers save, event by event. -/

namespace Sampraan.Graph

open Library Contracts

/-! ### Entities -/

structure IdentityEntity where
  wallet : Address
  didDigest : Bytes32
  status : ℕ
  registeredAt : ℕ
  lastChangedAt : ℕ
  lastTransactionHash : Bytes32
  deriving DecidableEq

structure AssetEntity where
  assetIdDigest : Bytes32
  classificationDigest : Bytes32
  status : ℕ
  custodian : Address
  creator : Address
  mintTransactionHash : Bytes32
  mintBlockNumber : ℕ
  mintedAt : ℕ
  registeredAt : ℕ
  updatedAt : ℕ
  deriving DecidableEq

inductive AssetTransferKind where
  | mint
  | assignment
  | transfer
  deriving DecidableEq

structure AssetTransfer where
  asset : String
  kind : AssetTransferKind
  fromCustodian : Option Address
  toCustodian : Address
  operator : Address
  transactionHash : Bytes32
  blockNumber : ℕ
  blockTimestamp : ℕ
  deriving DecidableEq

structure BlockchainEvent where
  contract : String
  eventName : String
  blockNumber : ℕ
  blockTimestamp : ℕ
  transactionHash : Bytes32
  payload : String
  deriving DecidableEq

/-- The saved entities under their ids. -/
structure EntityStore where
  identities : String → Option IdentityEntity
  assets : String → Option AssetEntity
  transfers : String → Option AssetTransfer
  events : String → Option BlockchainEvent

namespace EntityStore

def empty : EntityStore where
  identities _ := none
  assets _ := none
  transfers _ := none
  events _ := none

def saveIdentity (id : String) (identity : IdentityEntity) (store : EntityStore) : EntityStore :=
  { store with identities := Function.update store.identities id (some identity) }

def saveAsset (id : String) (asset : AssetEntity) (store : EntityStore) : EntityStore :=
  { store with assets := Function.update store.assets id (some asset) }

def saveTransfer (id : String) (transfer : AssetTransfer) (store : EntityStore) : EntityStore :=
  { store with transfers := Function.update store.transfers id (some transfer) }

def saveEvent (id : String) (event : BlockchainEvent) (store : EntityStore) : EntityStore :=
  { store with events := Function.update store.events id (some event) }

/-- Loads an entity and saves it with the change, if there is one. -/
def changeIdentity (id : String) (change : IdentityEntity → IdentityEntity) (store : EntityStore) :
    EntityStore :=
  match store.identities id with
  | none => store
  | some identity => store.saveIdentity id (change identity)

def changeAsset (id : String) (change : AssetEntity → AssetEntity) (store : EntityStore) :
    EntityStore :=
  match store.assets id with
  | none => store
  | some asset => store.saveAsset id (change asset)

section

variable {id : String} {store : EntityStore} {identity : IdentityEntity} {asset : AssetEntity}
  {transfer : AssetTransfer} {event : BlockchainEvent} {changeI : IdentityEntity → IdentityEntity}
  {changeA : AssetEntity → AssetEntity}

@[simp] theorem identities_saveAsset : (store.saveAsset id asset).identities = store.identities := rfl

@[simp] theorem identities_saveTransfer :
    (store.saveTransfer id transfer).identities = store.identities := rfl

@[simp] theorem identities_saveEvent : (store.saveEvent id event).identities = store.identities := rfl

@[simp] theorem identities_changeAsset :
    (store.changeAsset id changeA).identities = store.identities := by
  unfold changeAsset
  split <;> rfl

@[simp] theorem assets_saveIdentity : (store.saveIdentity id identity).assets = store.assets := rfl

@[simp] theorem assets_saveTransfer : (store.saveTransfer id transfer).assets = store.assets := rfl

@[simp] theorem assets_saveEvent : (store.saveEvent id event).assets = store.assets := rfl

@[simp] theorem assets_changeIdentity : (store.changeIdentity id changeI).assets = store.assets := by
  unfold changeIdentity
  split <;> rfl

theorem assets_saveAsset (id' : String) : (store.saveAsset id asset).assets id' =
    if id' = id then some asset else store.assets id' := Function.update_apply ..

theorem assets_changeAsset (id' : String) : (store.changeAsset id changeA).assets id' =
    if id' = id then (store.assets id).map changeA else store.assets id' := by
  unfold changeAsset
  split
  case h_1 hnone => split <;> simp_all
  case h_2 asset hasset => rw [assets_saveAsset, hasset, Option.map_some]

@[simp] theorem transfers_saveIdentity :
    (store.saveIdentity id identity).transfers = store.transfers := rfl

@[simp] theorem transfers_saveAsset : (store.saveAsset id asset).transfers = store.transfers := rfl

@[simp] theorem transfers_saveEvent : (store.saveEvent id event).transfers = store.transfers := rfl

@[simp] theorem transfers_changeIdentity :
    (store.changeIdentity id changeI).transfers = store.transfers := by
  unfold changeIdentity
  split <;> rfl

@[simp] theorem transfers_changeAsset :
    (store.changeAsset id changeA).transfers = store.transfers := by
  unfold changeAsset
  split <;> rfl

@[simp] theorem events_saveIdentity : (store.saveIdentity id identity).events = store.events := rfl

@[simp] theorem events_saveAsset : (store.saveAsset id asset).events = store.events := rfl

@[simp] theorem events_saveTransfer : (store.saveTransfer id transfer).events = store.events := rfl

@[simp] theorem events_changeIdentity : (store.changeIdentity id changeI).events = store.events := by
  unfold changeIdentity
  split <;> rfl

@[simp] theorem events_changeAsset : (store.changeAsset id changeA).events = store.events := by
  unfold changeAsset
  split <;> rfl

end

end EntityStore

/-! ### Texts -/

def toHexString {n : ℕ} (bytes : BitVec n) : String :=
  "0x" ++ String.ofList (HexText.hexDigits (n / 4) bytes.toNat)

/-- The transaction and the block of an event. -/
structure EventPlace where
  transactionHash : Bytes32
  transactionFrom : Address
  logIndex : ℕ
  blockNumber : ℕ
  blockTimestamp : ℕ

def eventId (txHash logIndex : String) : String := txHash ++ "-" ++ logIndex

def EventPlace.id (place : EventPlace) : String :=
  eventId (toHexString place.transactionHash) (toString place.logIndex)

/-- The five names that the asset mapping exports. -/
def statusNames : List String := ["NONE", "PENDING", "ACTIVE", "SUSPENDED", "REVOKED"]

/-- `IDENTITY_STATUS`, four names for the five statuses of the registry. -/
def identityStatusNames : List String := ["NONE", "ACTIVE", "SUSPENDED", "REVOKED"]

/-- The numbers of the enumerations in the events. -/
def assetStatusNumber : AssetStatus → ℕ
  | .none => 0
  | .pending => 1
  | .active => 2
  | .suspended => 3
  | .revoked => 4

def identityStatusNumber : IdentityStatus → ℕ
  | .none => 0
  | .pending => 1
  | .verified => 2
  | .suspended => 3
  | .deactivated => 4

theorem statusNames_getElem? (status : AssetStatus) :
    ∃ name, statusNames[assetStatusNumber status]? = some name := by
  cases status <;> exact ⟨_, rfl⟩

/-! ### The handlers

An index that is out of the bounds of its array aborts the handler. -/

variable (place : EventPlace)

def BlockchainEvent.of (contract eventName payload : String) : BlockchainEvent where
  contract := contract
  eventName := eventName
  blockNumber := place.blockNumber
  blockTimestamp := place.blockTimestamp
  transactionHash := place.transactionHash
  payload := payload

def rolePayload (role : Bytes32) (account : Address) : String :=
  "role=" ++ toHexString role ++ " account=" ++ toHexString account

def handleRoleGranted (role : Bytes32) (account : Address) (store : EntityStore) : EntityStore :=
  store.saveEvent place.id (.of place "SampraanAccessControl" "RoleGranted" (rolePayload role account))

def handleRoleRevoked (role : Bytes32) (account : Address) (store : EntityStore) : EntityStore :=
  store.saveEvent place.id (.of place "SampraanAccessControl" "RoleRevoked" (rolePayload role account))

def handleIdentityRegistered (wallet : Address) (didDigest : Bytes32) (registeredAt : ℕ)
    (store : EntityStore) : EntityStore :=
  let id := toHexString wallet
  let store := store.saveIdentity id
    { wallet := wallet
      didDigest := didDigest
      status := 1
      registeredAt :=
        match store.identities id with
        | none => registeredAt
        | some identity => identity.registeredAt
      lastChangedAt := registeredAt
      lastTransactionHash := place.transactionHash }
  store.saveEvent place.id (.of place "SampraanIdentityRegistry" "IdentityRegistered"
    ("wallet=" ++ id ++ " didDigest=" ++ toHexString didDigest))

def handleIdentityStatusChanged (wallet : Address) (oldStatus newStatus changedAt : ℕ)
    (store : EntityStore) : Option EntityStore := do
  let id := toHexString wallet
  let store := store.changeIdentity id fun identity =>
    { identity with
      status := newStatus
      lastChangedAt := changedAt
      lastTransactionHash := place.transactionHash }
  let oldName ← identityStatusNames[oldStatus]?
  let newName ← identityStatusNames[newStatus]?
  some (store.saveEvent place.id (.of place "SampraanIdentityRegistry" "IdentityStatusChanged"
    ("wallet=" ++ id ++ " " ++ oldName ++ "->" ++ newName)))

def handleAssetRegistered (tokenId : ℕ) (assetIdDigest : Bytes32) (custodian : Address)
    (classificationDigest : Bytes32) (registeredAt : ℕ) (store : EntityStore) : EntityStore :=
  let id := toString tokenId
  let store := store.saveAsset id
    { assetIdDigest := assetIdDigest
      classificationDigest := classificationDigest
      status := 1
      custodian := custodian
      creator := custodian
      mintTransactionHash := place.transactionHash
      mintBlockNumber := place.blockNumber
      mintedAt := registeredAt
      registeredAt :=
        match store.assets id with
        | none => registeredAt
        | some asset => asset.registeredAt
      updatedAt := place.blockTimestamp }
  let store := store.saveTransfer place.id
    { asset := id
      kind := .mint
      fromCustodian := none
      toCustodian := custodian
      operator := place.transactionFrom
      transactionHash := place.transactionHash
      blockNumber := place.blockNumber
      blockTimestamp := place.blockTimestamp }
  store.saveEvent place.id (.of place "SampraanAssetRegistry" "AssetRegistered"
    ("tokenId=" ++ id ++ " custodian=" ++ toHexString custodian))

/-- The writes that the handlers of the two moves have in common. -/
def handleMove (kind : AssetTransferKind) (tokenId : ℕ) (fromCustodian : Option Address)
    (toCustodian operator : Address) (movedAt : ℕ) (store : EntityStore) : EntityStore :=
  let id := toString tokenId
  let store := store.changeAsset id fun asset =>
    { asset with custodian := toCustodian, updatedAt := movedAt }
  store.saveTransfer place.id
    { asset := id
      kind := kind
      fromCustodian := fromCustodian
      toCustodian := toCustodian
      operator := operator
      transactionHash := place.transactionHash
      blockNumber := place.blockNumber
      blockTimestamp := place.blockTimestamp }

def handleAssetAssigned (tokenId : ℕ) (custodian operator : Address) (assignedAt : ℕ) :
    EntityStore → EntityStore :=
  handleMove place .assignment tokenId none custodian operator assignedAt

def handleAssetTransferred (tokenId : ℕ) (fromCustodian toCustodian operator : Address)
    (transferredAt : ℕ) : EntityStore → EntityStore :=
  handleMove place .transfer tokenId (some fromCustodian) toCustodian operator transferredAt

def handleAssetStatusChanged (tokenId oldStatus newStatus changedAt : ℕ) (store : EntityStore) :
    Option EntityStore := do
  let id := toString tokenId
  let store := store.changeAsset id fun asset =>
    { asset with status := newStatus, updatedAt := changedAt }
  let oldName ← statusNames[oldStatus]?
  let newName ← statusNames[newStatus]?
  some (store.saveEvent place.id (.of place "SampraanAssetRegistry" "AssetStatusChanged"
    ("tokenId=" ++ id ++ " " ++ oldName ++ "->" ++ newName)))

/-- The `eventHandlers` of the manifest. -/
def handle (store : EntityStore) : IndexedEvent → Option EntityStore
  | .roleGranted role account _ => some (handleRoleGranted place role account store)
  | .roleRevoked role account _ => some (handleRoleRevoked place role account store)
  | .identityRegistered wallet didDigest _ registeredAt =>
    some (handleIdentityRegistered place wallet didDigest registeredAt store)
  | .identityStatusChanged wallet _ oldStatus newStatus changedAt =>
    handleIdentityStatusChanged place wallet (identityStatusNumber oldStatus)
      (identityStatusNumber newStatus) changedAt store
  | .assetRegistered tokenId assetIdDigest custodian classificationDigest _ registeredAt =>
    some (handleAssetRegistered place tokenId assetIdDigest custodian classificationDigest registeredAt
      store)
  | .assetAssigned tokenId _ custodian operator assignedAt =>
    some (handleAssetAssigned place tokenId custodian operator assignedAt store)
  | .assetTransferred tokenId _ fromCustodian toCustodian operator transferredAt =>
    some (handleAssetTransferred place tokenId fromCustodian toCustodian operator transferredAt store)
  | .assetStatusChanged tokenId _ oldStatus newStatus _ changedAt =>
    handleAssetStatusChanged place tokenId (assetStatusNumber oldStatus) (assetStatusNumber newStatus)
      changedAt store

/-! ### The index -/

/-- A committed call, with the place of the event that it emits. -/
structure Sealed where
  place : EventPlace
  call : (Msg × Chain.Call) × Chain × Chain

def Sealed.report (m : Sealed) : Option (EventPlace × IndexedEvent) :=
  (Chain.indexedEvent m.call).map fun event => (m.place, event)

def takeReport (report : EventPlace × IndexedEvent) (store : EntityStore) : Option EntityStore :=
  handle report.1 store report.2

/-- The events one after the other; the index stops at a handler that aborts. -/
def index (history : List Sealed) : Option EntityStore :=
  replay takeReport (history.filterMap Sealed.report) .empty

/-- A history of the chain in which no two events have the same place. -/
structure IsSealed (governance : Address) (accessControl : SampraanAccessControl)
    (history : List Sealed) (s : Chain) : Prop where
  run : (Chain.machine governance).Run (fun _ _ => True) (Chain.deploy accessControl)
    (history.map Sealed.call) s
  times : ∀ m ∈ history, m.place.blockTimestamp = m.call.1.1.timestamp
  places : (history.filterMap Sealed.report).Pairwise fun a b =>
    (a.1.transactionHash, a.1.logIndex) ≠ (b.1.transactionHash, b.1.logIndex)

/-- A history with a block and a transaction for each call. -/
def blockEach (log : List ((Msg × Chain.Call) × Chain × Chain)) : List Sealed :=
  log.zipIdx.map fun e =>
    { place :=
        { transactionHash := BitVec.ofNat 256 (0x7A00 + e.2)
          transactionFrom := e.1.1.1.sender
          logIndex := e.2
          blockNumber := e.2
          blockTimestamp := e.1.1.1.timestamp }
      call := e.1 }

theorem isSealed_blockEach {governance : Address} {accessControl : SampraanAccessControl}
    {log : List ((Msg × Chain.Call) × Chain × Chain)} {s : Chain}
    (hr : (Chain.machine governance).Run (fun _ _ => True) (Chain.deploy accessControl) log s) :
    IsSealed governance accessControl (blockEach log) s where
  run := by
    have hcalls : (blockEach log).map Sealed.call = log := by
      rw [blockEach, List.map_map]
      exact List.zipIdx_map_fst 0 log
    rw [hcalls]
    exact hr
  times m hm := by
    obtain ⟨e, -, rfl⟩ := List.mem_map.mp hm
    rfl
  places := by
    have hindex : log.zipIdx.Pairwise fun a b => a.2 < b.2 := by
      rw [← List.pairwise_map (f := Prod.snd), List.zipIdx_map_snd]
      exact List.pairwise_lt_range'
    have hplace : (blockEach log).Pairwise fun a b => a.place.logIndex < b.place.logIndex :=
      List.pairwise_map.mpr hindex
    refine hplace.filterMap _ fun a b hlt x hx y hy heq => ?_
    obtain ⟨event, -, rfl⟩ := Option.map_eq_some_iff.mp hx
    obtain ⟨event', -, rfl⟩ := Option.map_eq_some_iff.mp hy
    exact absurd (congrArg Prod.snd heq) (Nat.ne_of_lt hlt)

/-! ### Ids -/

theorem toHexString_injective {n : ℕ} (hn : 2 ^ n = 16 ^ (n / 4)) :
    Function.Injective (toHexString : BitVec n → String) := by
  intro a b h
  have hlist := congrArg String.toList h
  simp only [toHexString, String.toList_append, String.toList_ofList] at hlist
  apply BitVec.eq_of_toNat_eq
  apply HexText.hexDigits_injOn (hn ▸ a.isLt) (hn ▸ b.isLt)
  exact List.append_cancel_left hlist

theorem wallet_injective : Function.Injective (toHexString : Address → String) :=
  toHexString_injective (by decide)

theorem digest_injective : Function.Injective (toHexString : Bytes32 → String) :=
  toHexString_injective (by decide)

theorem toString_injective : Function.Injective (toString : ℕ → String) := by
  intro a b h
  have hlist : Nat.toDigits 10 a = Nat.toDigits 10 b := by
    simpa [toString, Nat.repr] using congrArg String.toList h
  rw [← Decimal.foldl_toDigits a, hlist, Decimal.foldl_toDigits]

theorem id_eq_iff {p q : EventPlace} :
    p.id = q.id ↔ (p.transactionHash, p.logIndex) = (q.transactionHash, q.logIndex) := by
  constructor
  · intro h
    have hlist := congrArg String.toList h
    simp only [EventPlace.id, eventId, String.toList_append, List.append_assoc] at hlist
    obtain ⟨hhash, hindex⟩ := List.append_inj hlist (by simp [toHexString])
    have hindex' := toString_injective (String.toList_injective (List.append_cancel_left hindex))
    rw [digest_injective (String.toList_injective hhash), hindex']
  · intro h
    obtain ⟨hhash, hindex⟩ := Prod.mk.inj h
    rw [EventPlace.id, EventPlace.id, hhash, hindex]

end Sampraan.Graph
