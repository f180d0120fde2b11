import Sampraan.Graph.Subgraph
import Sampraan.Contracts.Roles

/-! The identities of the subgraph are the records of the registry, until an identity is deactivated. -/

namespace Sampraan.Graph

open Library Contracts

/-! ### What the other handlers leave alone -/

def isIdentityEvent : IndexedEvent → Bool
  | .identityRegistered .. | .identityStatusChanged .. => true
  | _ => false

theorem handle_of_not_identity (place : EventPlace) (store : EntityStore) {event : IndexedEvent}
    (hevent : isIdentityEvent event = false) :
    ∃ store', handle place store event = some store' ∧ store'.identities = store.identities := by
  cases event with
  | identityRegistered => cases hevent
  | identityStatusChanged => cases hevent
  | roleGranted role account sender => exact ⟨_, rfl, rfl⟩
  | roleRevoked role account sender => exact ⟨_, rfl, rfl⟩
  | assetRegistered => exact ⟨_, rfl, rfl⟩
  | assetAssigned tokenId assetIdDigest custodian operator assignedAt =>
    exact ⟨_, rfl, by simp [handleAssetAssigned, handleMove]⟩
  | assetTransferred tokenId assetIdDigest fromCustodian toCustodian operator transferredAt =>
    exact ⟨_, rfl, by simp [handleAssetTransferred, handleMove]⟩
  | assetStatusChanged tokenId assetIdDigest oldStatus newStatus operator changedAt =>
    obtain ⟨oldName, hold⟩ := statusNames_getElem? oldStatus
    obtain ⟨newName, hnew⟩ := statusNames_getElem? newStatus
    simp [handle, handleAssetStatusChanged, hold, hnew]

/-! ### Records and entities -/

/-- What the registry knows of an entity. -/
structure Mirrors (wallet : Address) (record : IdentityRecord) (identity : IdentityEntity) : Prop where
  wallet : identity.wallet = wallet
  didDigest : identity.didDigest = record.didDigest
  status : identity.status = identityStatusNumber record.status
  registeredAt : identity.registeredAt = record.registeredAt
  lastChangedAt : identity.lastChangedAt = record.statusChangedAt

structure IdentitiesMirrored (registry : SampraanIdentityRegistry) (store : EntityStore) : Prop where
  registered : ∀ wallet, registry.status wallet ≠ .none → ∃ identity,
    store.identities (toHexString wallet) = some identity ∧
      Mirrors wallet (registry.identities wallet) identity
  only : ∀ id identity, store.identities id = some identity →
    ∃ wallet, registry.status wallet ≠ .none ∧ id = toHexString wallet

theorem identitiesMirrored_deploy : IdentitiesMirrored .deploy .empty where
  registered _ h := absurd rfl h
  only _ _ h := by cases h

section

variable {r r' : SampraanIdentityRegistry} {store store' : EntityStore} {wallet : Address}

theorem IdentitiesMirrored.of_same (h : IdentitiesMirrored r store)
    (hregistry : r'.identities = r.identities) (hstore : store'.identities = store.identities) :
    IdentitiesMirrored r' store' := by
  have hstatus (w : Address) : r'.status w = r.status w := by
    rw [SampraanIdentityRegistry.status, hregistry, SampraanIdentityRegistry.status]
  constructor
  · intro w hw
    rw [hstore, hregistry]
    exact h.registered w (hstatus w ▸ hw)
  · intro id identity hidentity
    rw [hstore] at hidentity
    obtain ⟨w, hw, hid⟩ := h.only id identity hidentity
    exact ⟨w, hstatus w ▸ hw, hid⟩

theorem IdentitiesMirrored.update (h : IdentitiesMirrored r store) {record : IdentityRecord}
    {identity : IdentityEntity} (hrecord : record.status ≠ .none)
    (hregistry : r'.identities = Function.update r.identities wallet record)
    (hstore : store'.identities =
      Function.update store.identities (toHexString wallet) (some identity))
    (hmirrors : Mirrors wallet record identity) : IdentitiesMirrored r' store' := by
  have hself : r'.status wallet ≠ .none := by
    rw [SampraanIdentityRegistry.status, hregistry, Function.update_self]
    exact hrecord
  have hother {w : Address} (hw : w ≠ wallet) : r'.identities w = r.identities w := by
    rw [hregistry, Function.update_of_ne hw]
  constructor
  · intro w hw
    by_cases hwallet : w = wallet
    · subst hwallet
      refine ⟨identity, ?_, ?_⟩
      · rw [hstore, Function.update_self]
      · rw [hregistry, Function.update_self]
        exact hmirrors
    · rw [hstore, Function.update_of_ne (wallet_injective.ne hwallet), hother hwallet]
      apply h.registered w
      rw [SampraanIdentityRegistry.status, ← hother hwallet]
      exact hw
  · intro id identity' hidentity
    by_cases hid : id = toHexString wallet
    · exact ⟨wallet, hself, hid⟩
    · rw [hstore, Function.update_of_ne hid] at hidentity
      obtain ⟨w, hw, hid'⟩ := h.only id identity' hidentity
      have hwallet : w ≠ wallet := by
        rintro rfl
        exact hid hid'
      refine ⟨w, ?_, hid'⟩
      rw [SampraanIdentityRegistry.status, hother hwallet]
      exact hw

theorem IdentitiesMirrored.unregistered (h : IdentitiesMirrored r store)
    (hnone : r.status wallet = .none) : store.identities (toHexString wallet) = none := by
  cases hidentity : store.identities (toHexString wallet) with
  | none => rfl
  | some identity =>
    obtain ⟨w, hw, hid⟩ := h.only _ _ hidentity
    rw [← wallet_injective hid] at hw
    exact absurd hnone hw

/-! ### The two handlers -/

theorem identityStatusNames_getElem? (status : IdentityStatus) :
    (∃ name, identityStatusNames[identityStatusNumber status]? = some name) ↔
      status ≠ .deactivated := by
  cases status <;> simp [identityStatusNames, identityStatusNumber]

/-- The handler of a change of status aborts at a deactivation, and only there. -/
theorem handleIdentityStatusChanged_spec (h : IdentitiesMirrored r store) (place : EventPlace)
    {oldStatus newStatus : IdentityStatus} {changedAt : ℕ} (hold : r.status wallet = oldStatus)
    (hregistered : oldStatus ≠ .none) (hlive : oldStatus ≠ .deactivated) (hnew : newStatus ≠ .none)
    (hregistry : r'.identities = Function.update r.identities wallet
      { r.identities wallet with status := newStatus, statusChangedAt := changedAt }) :
    match handleIdentityStatusChanged place wallet (identityStatusNumber oldStatus)
      (identityStatusNumber newStatus) changedAt store with
    | none => newStatus = .deactivated
    | some store' => newStatus ≠ .deactivated ∧ IdentitiesMirrored r' store' := by
  obtain ⟨identity, hidentity, hmirrors⟩ := h.registered wallet (hold ▸ hregistered)
  obtain ⟨oldName, hname⟩ := (identityStatusNames_getElem? oldStatus).mpr hlive
  by_cases hdeactivated : newStatus = .deactivated
  · subst hdeactivated
    have hnone : handleIdentityStatusChanged place wallet (identityStatusNumber oldStatus)
        (identityStatusNumber .deactivated) changedAt store = none := by
      simp [handleIdentityStatusChanged, identityStatusNames, identityStatusNumber]
    rw [hnone]
  · obtain ⟨newName, hname'⟩ := (identityStatusNames_getElem? newStatus).mpr hdeactivated
    simp only [handleIdentityStatusChanged, EntityStore.changeIdentity, hidentity, hname, hname',
      Option.bind_eq_bind, Option.bind_some]
    refine ⟨hdeactivated, h.update hnew hregistry rfl ?_⟩
    exact
      { wallet := hmirrors.wallet
        didDigest := hmirrors.didDigest
        status := rfl
        registeredAt := hmirrors.registeredAt
        lastChangedAt := rfl }

theorem handleIdentityRegistered_spec (h : IdentitiesMirrored r store) {place : EventPlace}
    {didDigest publicKeyDigest : Bytes32} {registeredAt : ℕ} (hnone : r.status wallet = .none)
    (hregistry : r'.identities = Function.update r.identities wallet
      { didDigest := didDigest
        publicKeyDigest := publicKeyDigest
        status := .pending
        registeredAt := registeredAt
        statusChangedAt := registeredAt }) :
    IdentitiesMirrored r' (handleIdentityRegistered place wallet didDigest registeredAt store) := by
  have hunknown := h.unregistered hnone
  apply h.update _ hregistry rfl
  · simp only [hunknown]
    constructor <;> rfl
  · exact nofun

end

/-! ### Every run -/

/-- The state of the registry beside the index, which may have stopped. -/
def IdentitiesView (registry : SampraanIdentityRegistry) : Option EntityStore → Prop
  | none => ∃ wallet, registry.status wallet = .deactivated
  | some store =>
    (∀ wallet, registry.status wallet ≠ .deactivated) ∧ IdentitiesMirrored registry store

section

variable {r r' : SampraanIdentityRegistry} {view : Option EntityStore} {place : EventPlace}
  {event : Option IndexedEvent}

theorem IdentitiesView.of_same (h : IdentitiesView r view) (hregistry : r'.identities = r.identities)
    (hevent : ∀ e ∈ event, isIdentityEvent e = false) :
    IdentitiesView r' (view.bind (takeIn takeReport (event.map fun e => (place, e)))) := by
  have hstatus (w : Address) : r'.status w = r.status w := by
    rw [SampraanIdentityRegistry.status, hregistry, SampraanIdentityRegistry.status]
  cases view with
  | none =>
    obtain ⟨wallet, hwallet⟩ := h
    exact ⟨wallet, (hstatus wallet).trans hwallet⟩
  | some store =>
    obtain ⟨hlive, hmirrored⟩ := h
    have hlive' (w : Address) : r'.status w ≠ .deactivated := hstatus w ▸ hlive w
    cases event with
    | none => exact ⟨hlive', hmirrored.of_same hregistry rfl⟩
    | some e =>
      obtain ⟨store', hstore, hsame⟩ := handle_of_not_identity place store (hevent e rfl)
      have htake : (some store).bind (takeIn takeReport ((some e).map fun e => (place, e))) =
          some store' := hstore
      rw [htake]
      exact ⟨hlive', hmirrored.of_same hregistry hsame⟩

theorem IdentitiesView.reported (h : IdentitiesView r view)
    (hevent : SampraanIdentityRegistry.Reported r r' event) :
    IdentitiesView r' (view.bind (takeIn takeReport (event.map fun e => (place, e)))) := by
  match event, hevent with
  | none, hsame => exact h.of_same hsame (by simp)
  | some (.identityRegistered wallet didDigest publicKeyDigest registeredAt), ⟨hnone, hregistry⟩ =>
    have hstatus {w : Address} : r'.status w = .deactivated ↔ r.status w = .deactivated := by
      by_cases hw : w = wallet
      · subst hw
        simp [SampraanIdentityRegistry.status, hregistry, hnone]
      · simp [SampraanIdentityRegistry.status, hregistry, hw]
    cases view with
    | none =>
      obtain ⟨w, hw⟩ := h
      exact ⟨w, hstatus.mpr hw⟩
    | some store =>
      obtain ⟨hlive, hmirrored⟩ := h
      exact ⟨fun w hw => hlive w (hstatus.mp hw),
        handleIdentityRegistered_spec hmirrored hnone hregistry⟩
  | some (.identityStatusChanged wallet didDigest oldStatus newStatus changedAt),
      ⟨hold, hregistered, hlive, hnew, hregistry⟩ =>
    have hself : r'.status wallet = newStatus := by
      simp [SampraanIdentityRegistry.status, hregistry]
    have hother {w : Address} (hw : w ≠ wallet) : r'.status w = r.status w := by
      simp [SampraanIdentityRegistry.status, hregistry, hw]
    cases view with
    | none =>
      obtain ⟨w, hw⟩ := h
      refine ⟨w, (hother ?_).trans hw⟩
      rintro rfl
      exact hlive (hold.symm.trans hw)
    | some store =>
      obtain ⟨hnone, hmirrored⟩ := h
      have hspec := handleIdentityStatusChanged_spec hmirrored place hold hregistered hlive hnew
        hregistry
      have htake : (some store).bind (takeIn takeReport
          ((some (IndexedEvent.identityStatusChanged wallet didDigest oldStatus newStatus
            changedAt)).map fun e => (place, e))) = handleIdentityStatusChanged place wallet
          (identityStatusNumber oldStatus) (identityStatusNumber newStatus) changedAt store := rfl
      rw [htake]
      cases hstore : handleIdentityStatusChanged place wallet (identityStatusNumber oldStatus)
          (identityStatusNumber newStatus) changedAt store with
      | none =>
        rw [hstore] at hspec
        exact ⟨wallet, hself.trans hspec⟩
      | some store' =>
        rw [hstore] at hspec
        refine ⟨fun w => ?_, hspec.2⟩
        by_cases hw : w = wallet
        · subst hw
          rw [hself]
          exact hspec.1
        · rw [hother hw]
          exact hnone w

end

theorem accessControl_event {msg : Msg} {s : SampraanAccessControl}
    {call : SampraanAccessControl.Call} :
    ∀ e ∈ call.indexedEvent msg s, isIdentityEvent e = false := by
  intro e he
  cases call <;>
    · simp only [SampraanAccessControl.Call.indexedEvent] at he
      split at he <;> cases he <;> rfl

theorem assetRegistry_event {msg : Msg} {s : SampraanAssetRegistry}
    {call : SampraanAssetRegistry.Call} :
    ∀ e ∈ call.indexedEvent msg s, isIdentityEvent e = false := by
  intro e he
  cases call <;> cases he <;> rfl

variable {governance : Address} {accessControl : SampraanAccessControl} {history : List Sealed}
  {s : Chain}

/-- The index stops exactly when an identity is deactivated; as long as it runs, its identities are the
registered wallets, each as its record has it. -/
theorem identities_mirrored (h : IsSealed governance accessControl history s) :
    (index history = none ↔ ∃ wallet, s.identityRegistry.status wallet = .deactivated) ∧
      ∀ store, index history = some store → IdentitiesMirrored s.identityRegistry store := by
  have hview : IdentitiesView s.identityRegistry (index history) := by
    refine h.run.replay (fun _ s view => IdentitiesView s.identityRegistry view) ?_ ?_
    · exact ⟨fun _ => nofun, identitiesMirrored_deploy⟩
    · rintro history ⟨place, ⟨msg, call⟩, s, t⟩ view - - hrun hview
      have hdoes := Chain.run_does hrun
      cases call with
      | accessControl call =>
        exact hview.of_same (by rw [hdoes.2.1]) accessControl_event
      | assetRegistry call =>
        exact hview.of_same (by rw [hdoes.2.2]) assetRegistry_event
      | identityRegistry call =>
        exact hview.reported (SampraanIdentityRegistry.run_reported hdoes.1).1
  cases hindex : index history with
  | none =>
    rw [hindex] at hview
    exact ⟨iff_of_true rfl hview, nofun⟩
  | some store =>
    rw [hindex] at hview
    refine ⟨iff_of_false nofun fun ⟨wallet, hwallet⟩ => hview.1 wallet hwallet, ?_⟩
    rintro store' ⟨⟩
    exact hview.2

def sampleIdentities : List (Msg × Chain.Call) :=
  let admin : Msg := { sender := 0xA11CE, timestamp := 1700000000 }
  [(admin, .identityRegistry (.registerIdentity 0xB0B 0xD1D 0x9B)),
    (admin, .identityRegistry (.verifyIdentity 0xB0B "papers seen")),
    (admin, .identityRegistry (.suspendIdentity 0xB0B "on leave"))]

/-- A suspended identity, and then the same identity deactivated. -/
theorem identities_mirrored_sample :
    (∃ (history : List Sealed) (s : Chain) (store : EntityStore),
      s.identityRegistry.status 0xB0B = .suspended ∧ index history = some store ∧
        IdentitiesMirrored s.identityRegistry store) ∧
    ∃ (history : List Sealed) (s : Chain), s.identityRegistry.status 0xB0B = .deactivated ∧ index history = none := by
  constructor
  · obtain ⟨⟨log, s⟩, hexec, hstatus, hindex⟩ : ∃ r, (Chain.machine 0x60).exec (fun _ _ => True)
        sampleIdentities [] (Chain.deploy SampraanAccessControl.sampleState) = some r ∧
          r.2.identityRegistry.status 0xB0B = .suspended ∧ (index (blockEach r.1)).isSome = true :=
      ⟨_, rfl, rfl, rfl⟩
    obtain ⟨store, hstore⟩ := Option.isSome_iff_exists.mp hindex
    have hsealed := isSealed_blockEach (Machine.exec_run .init hexec)
    exact ⟨blockEach log, s, store, hstatus, hstore, (identities_mirrored hsealed).2 store hstore⟩
  · let removal : Msg × Chain.Call := ({ sender := 0x60, timestamp := 1700000500 },
      .identityRegistry (.governanceDeactivateIdentity 0xB0B "left"))
    obtain ⟨⟨log, s⟩, hexec, hstatus⟩ : ∃ r, (Chain.machine 0x60).exec (fun _ _ => True)
        (sampleIdentities ++ [removal]) [] (Chain.deploy SampraanAccessControl.sampleState) = some r ∧
          r.2.identityRegistry.status 0xB0B = .deactivated := ⟨_, rfl, rfl⟩
    have hsealed := isSealed_blockEach (Machine.exec_run .init hexec)
    exact ⟨blockEach log, s, hstatus, (identities_mirrored hsealed).1.mpr ⟨0xB0B, hstatus⟩⟩

end Sampraan.Graph
