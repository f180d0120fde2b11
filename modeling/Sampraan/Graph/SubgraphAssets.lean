import Sampraan.Graph.Subgraph
import Sampraan.Contracts.Roles

/-! The assets of the subgraph beside the tokens of the registry: the statuses agree until a burn, and
the custodian is that of the last move that was not forced. -/

namespace Sampraan.Graph

open Library Contracts

/-! ### Moves -/

/-- The new custodian of the token, and whether governance forced the move. -/
def custodyMove (n : ℕ) (m : Sealed) : Option (Address × Bool) :=
  match m.call.1.2 with
  | .assetRegistry (.registerAsset _ custodian _ _) =>
    if m.call.2.1.assetRegistry.nextTokenId = n then some (custodian, false) else none
  | .assetRegistry (.assignAsset tokenId custodian) =>
    if tokenId = n then some (custodian, false) else none
  | .assetRegistry (.transferCustody tokenId toCustodian) =>
    if tokenId = n then some (toCustodian, false) else none
  | .assetRegistry (.governanceForceTransfer tokenId toCustodian _) =>
    if tokenId = n then some (toCustodian, true) else none
  | _ => none

def custodyMoves (n : ℕ) (history : List Sealed) : List (Address × Bool) :=
  history.filterMap (custodyMove n)

def unforcedMoves (n : ℕ) (history : List Sealed) : List (Address × Bool) :=
  (custodyMoves n history).filter fun move => !move.2

def isBurn (n : ℕ) (m : Sealed) : Bool :=
  match m.call.1.2 with
  | .assetRegistry (.governanceBurnNFT tokenId _) => tokenId == n
  | _ => false

def IsBurnt (n : ℕ) (history : List Sealed) : Prop := ∃ m ∈ history, isBurn n m = true

section

variable {n : ℕ} {history : List Sealed} {m : Sealed} {custodian : Address} {forced : Bool}

theorem custodyMoves_none (h : custodyMove n m = none) :
    custodyMoves n (history ++ [m]) = custodyMoves n history := by
  simp [custodyMoves, h]

theorem custodyMoves_some (h : custodyMove n m = some (custodian, forced)) :
    custodyMoves n (history ++ [m]) = custodyMoves n history ++ [(custodian, forced)] := by
  simp [custodyMoves, h]

theorem unforcedMoves_none (h : custodyMove n m = none) :
    unforcedMoves n (history ++ [m]) = unforcedMoves n history := by
  rw [unforcedMoves, custodyMoves_none h, unforcedMoves]

theorem unforcedMoves_some (h : custodyMove n m = some (custodian, forced)) :
    unforcedMoves n (history ++ [m]) =
      unforcedMoves n history ++ if forced then [] else [(custodian, false)] := by
  rw [unforcedMoves, custodyMoves_some h, List.filter_append, unforcedMoves]
  cases forced <;> rfl

theorem isBurnt_append : IsBurnt n (history ++ [m]) ↔ IsBurnt n history ∨ isBurn n m = true := by
  simp only [IsBurnt, List.mem_append, List.mem_singleton]
  constructor
  · rintro ⟨m', hm | rfl, hburn⟩
    · exact .inl ⟨m', hm, hburn⟩
    · exact .inr hburn
  · rintro (⟨m', hm, hburn⟩ | hburn)
    · exact ⟨m', .inl hm, hburn⟩
    · exact ⟨m, .inr rfl, hburn⟩

end

/-! ### Tokens and entities -/

structure SameRegistration (n : ℕ) (registry : SampraanAssetRegistry) (asset : AssetEntity) : Prop where
  assetIdDigest : asset.assetIdDigest = registry.digest n
  classificationDigest : asset.classificationDigest = (registry.assets n).classificationDigest
  registeredAt : asset.registeredAt = (registry.assets n).registeredAt

/-- The status is that of the token until the burn; the custodian may lag behind a forced transfer. -/
structure AssetMirrors (n : ℕ) (history : List Sealed) (registry : SampraanAssetRegistry)
    (asset : AssetEntity) : Prop extends SameRegistration n registry asset where
  status : asset.status = assetStatusNumber (registry.status n) ↔ ¬ IsBurnt n history
  creator : (custodyMoves n history).head? = some (asset.creator, false)
  custodian : (unforcedMoves n history).getLast? = some (asset.custodian, false)
  current : (custodyMoves n history).getLast?.map Prod.fst = some (registry.custodian n)

structure AssetsMirrored (history : List Sealed) (registry : SampraanAssetRegistry)
    (store : EntityStore) : Prop where
  registered : ∀ n, registry.status n ≠ .none → ∃ asset, store.assets (toString n) = some asset ∧
    AssetMirrors n history registry asset
  only : ∀ id asset, store.assets id = some asset →
    ∃ n, registry.status n ≠ .none ∧ id = toString n

/-- One token with its entity, if it has one. -/
structure TokenMirrored (n : ℕ) (history : List Sealed) (registry : SampraanAssetRegistry)
    (store : EntityStore) : Prop where
  unregistered : registry.status n = .none → store.assets (toString n) = none ∧
    custodyMoves n history = [] ∧ ¬ IsBurnt n history
  registered : registry.status n ≠ .none → ∃ asset, store.assets (toString n) = some asset ∧
    AssetMirrors n history registry asset
  burnt : IsBurnt n history → registry.status n = .revoked

/-- What an event does to the entity of the token beside what its call does to the token. -/
inductive TokenStep (n : ℕ) (m : Sealed) (r r' : SampraanAssetRegistry) (store store' : EntityStore) :
    Prop
  | same (hmove : custodyMove n m = none) (hburn : isBurn n m = false)
    (hrecord : r'.assets n = r.assets n)
    (hasset : store'.assets (toString n) = store.assets (toString n))
  | mint (asset : AssetEntity) (hmove : custodyMove n m = some (asset.creator, false))
    (hburn : isBurn n m = false) (hnone : r.status n = .none)
    (hasset : store'.assets (toString n) = some asset) (hstatus : r'.status n = .pending ∧ asset.status = 1)
    (hcustodian : r'.custodian n = asset.creator ∧ asset.custodian = asset.creator)
    (hregistration : SameRegistration n r' asset)
  | move (custodian : Address) (forced : Bool) (time updatedAt : ℕ)
    (hmove : custodyMove n m = some (custodian, forced)) (hburn : isBurn n m = false)
    (hregistered : r.status n ≠ .none)
    (hrecord : r'.assets n = { r.assets n with custodian := custodian, statusChangedAt := time })
    (hasset : store'.assets (toString n) = if forced then store.assets (toString n) else
      (store.assets (toString n)).map fun asset =>
        { asset with custodian := custodian, updatedAt := updatedAt })
  | status (newStatus : AssetStatus) (time updatedAt : ℕ) (hmove : custodyMove n m = none)
    (hburn : isBurn n m = false)
    (hchange : SampraanAssetRegistry.StatusChange (r.status n) newStatus)
    (hrecord : r'.assets n = { r.assets n with status := newStatus, statusChangedAt := time })
    (hasset : store'.assets (toString n) = (store.assets (toString n)).map fun asset =>
      { asset with status := assetStatusNumber newStatus, updatedAt := updatedAt })
  | burn (time : ℕ) (hmove : custodyMove n m = none) (hburn : isBurn n m = true)
    (hlive : r.status n ≠ .none ∧ r.status n ≠ .revoked)
    (hrecord : r'.assets n = { r.assets n with status := .revoked, statusChangedAt := time })
    (hasset : store'.assets (toString n) = store.assets (toString n))

section

variable {n : ℕ} {history : List Sealed} {m : Sealed} {r r' : SampraanAssetRegistry}
  {store store' : EntityStore}

theorem assetStatusNumber_injective : Function.Injective assetStatusNumber := by
  intro a b h
  cases a <;> cases b <;> first | rfl | cases h

theorem SameRegistration.keep {asset asset' : AssetEntity} (h : SameRegistration n r asset)
    {status : AssetStatus} {custodian : Address} {time : ℕ}
    (hrecord : r'.assets n =
      { r.assets n with status := status, custodian := custodian, statusChangedAt := time })
    (hasset : asset' = { asset with
      status := asset'.status, custodian := asset'.custodian, updatedAt := asset'.updatedAt }) :
    SameRegistration n r' asset' := by
  rw [hasset]
  constructor
  · rw [SampraanAssetRegistry.digest, hrecord]
    exact h.assetIdDigest
  · rw [hrecord]
    exact h.classificationDigest
  · rw [hrecord]
    exact h.registeredAt

theorem TokenStep.mirrored (h : TokenStep n m r r' store store')
    (hs : TokenMirrored n history r store) : TokenMirrored n (history ++ [m]) r' store' := by
  cases h with
  | same hmove hburn hrecord hasset =>
    have hburnt : IsBurnt n (history ++ [m]) ↔ IsBurnt n history := by simp [isBurnt_append, hburn]
    have hstatus : r'.status n = r.status n := congrArg AssetRecord.status hrecord
    constructor
    · intro hnone
      rw [hasset, custodyMoves_none hmove, hburnt]
      exact hs.unregistered (hstatus.symm.trans hnone)
    · intro hregistered
      obtain ⟨asset, hstored, hmirrors⟩ := hs.registered (hstatus ▸ hregistered)
      refine ⟨asset, hasset.trans hstored, hmirrors.keep hrecord rfl, ?_, ?_, ?_, ?_⟩
      · rw [hstatus, hburnt]
        exact hmirrors.status
      · rw [custodyMoves_none hmove]
        exact hmirrors.creator
      · rw [unforcedMoves_none hmove]
        exact hmirrors.custodian
      · rw [custodyMoves_none hmove, SampraanAssetRegistry.custodian, hrecord]
        exact hmirrors.current
    · rw [hburnt, hstatus]
      exact hs.burnt
  | mint asset hmove hburn hnone hasset hstatus hcustodian hregistration =>
    obtain ⟨-, hnil, hunburnt⟩ := hs.unregistered hnone
    have hburnt : ¬ IsBurnt n (history ++ [m]) := by simp [isBurnt_append, hburn, hunburnt]
    have hunforced : unforcedMoves n history = [] := by rw [unforcedMoves, hnil, List.filter_nil]
    constructor
    · intro hnone'
      rw [hstatus.1] at hnone'
      cases hnone'
    · intro _
      refine ⟨asset, hasset, hregistration, ?_, ?_, ?_, ?_⟩
      · exact iff_of_true (by rw [hstatus.1, hstatus.2]; rfl) hburnt
      · rw [custodyMoves_some hmove, hnil]
        rfl
      · rw [unforcedMoves_some hmove, hunforced, hcustodian.2]
        rfl
      · rw [custodyMoves_some hmove, hnil, hcustodian.1]
        rfl
    · exact fun h => absurd h hburnt
  | move custodian forced time updatedAt hmove hburn hregistered hrecord hasset =>
    have hburnt : IsBurnt n (history ++ [m]) ↔ IsBurnt n history := by simp [isBurnt_append, hburn]
    have hstatus : r'.status n = r.status n := by
      rw [SampraanAssetRegistry.status, hrecord, SampraanAssetRegistry.status]
    obtain ⟨asset, hstored, hmirrors⟩ := hs.registered hregistered
    have hcreator : (custodyMoves n (history ++ [m])).head? = some (asset.creator, false) := by
      rw [custodyMoves_some hmove, List.head?_append, hmirrors.creator, Option.some_or]
    have hcurrent : (custodyMoves n (history ++ [m])).getLast?.map Prod.fst =
        some (r'.custodian n) := by
      rw [custodyMoves_some hmove, List.getLast?_append, SampraanAssetRegistry.custodian, hrecord]
      rfl
    constructor
    · exact fun hnone => absurd (hstatus.symm.trans hnone) hregistered
    · intro _
      cases forced with
      | true =>
        refine ⟨asset, hasset.trans hstored, hmirrors.keep hrecord rfl, ?_, hcreator, ?_, hcurrent⟩
        · rw [hstatus, hburnt]
          exact hmirrors.status
        · rw [unforcedMoves_some hmove, if_pos rfl, List.append_nil]
          exact hmirrors.custodian
      | false =>
        rw [hstored] at hasset
        refine ⟨_, hasset, hmirrors.keep hrecord rfl, ?_, hcreator, ?_, hcurrent⟩
        · rw [hstatus, hburnt]
          exact hmirrors.status
        · rw [unforcedMoves_some hmove, List.getLast?_append]
          rfl
    · rw [hburnt, hstatus]
      exact hs.burnt
  | status newStatus time updatedAt hmove hburn hchange hrecord hasset =>
    have hstatus : r'.status n = newStatus := by rw [SampraanAssetRegistry.status, hrecord]
    obtain ⟨asset, hstored, hmirrors⟩ := hs.registered hchange.ne_none.1
    have hunburnt : ¬ IsBurnt n history := by
      intro hburnt
      rw [hs.burnt hburnt] at hchange
      cases hchange
    have hburnt : ¬ IsBurnt n (history ++ [m]) := by simp [isBurnt_append, hburn, hunburnt]
    rw [hstored] at hasset
    constructor
    · exact fun hnone => absurd (hstatus.symm.trans hnone) hchange.ne_none.2
    · intro _
      refine ⟨_, hasset, hmirrors.keep hrecord rfl, ?_, ?_, ?_, ?_⟩
      · exact iff_of_true (by rw [hstatus]) hburnt
      · rw [custodyMoves_none hmove]
        exact hmirrors.creator
      · rw [unforcedMoves_none hmove]
        exact hmirrors.custodian
      · rw [custodyMoves_none hmove, SampraanAssetRegistry.custodian, hrecord]
        exact hmirrors.current
    · exact fun h => absurd h hburnt
  | burn time hmove hburn hlive hrecord hasset =>
    have hstatus : r'.status n = .revoked := by rw [SampraanAssetRegistry.status, hrecord]
    obtain ⟨asset, hstored, hmirrors⟩ := hs.registered hlive.1
    have hunburnt : ¬ IsBurnt n history := fun hburnt => hlive.2 (hs.burnt hburnt)
    constructor
    · intro hnone
      rw [hstatus] at hnone
      cases hnone
    · intro _
      refine ⟨asset, hasset.trans hstored, hmirrors.keep hrecord rfl, ?_, ?_, ?_, ?_⟩
      · -- The entity keeps the status of before the burn.
        have hbefore := hmirrors.status.mpr hunburnt
        rw [hstatus, hbefore]
        refine iff_of_false (fun heq => hlive.2 (assetStatusNumber_injective heq)) ?_
        exact not_not.mpr (isBurnt_append.mpr (.inr hburn))
      · rw [custodyMoves_none hmove]
        exact hmirrors.creator
      · rw [unforcedMoves_none hmove]
        exact hmirrors.custodian
      · rw [custodyMoves_none hmove, SampraanAssetRegistry.custodian, hrecord]
        exact hmirrors.current
    · exact fun _ => hstatus

/-! ### The steps of the calls -/

theorem TokenStep.of_same (hassets : r'.assets = r.assets) (hstore : store'.assets = store.assets)
    (hmove : custodyMove n m = none) (hburn : isBurn n m = false) : TokenStep n m r r' store store' :=
  .same hmove hburn (congrFun hassets n) (congrFun hstore _)

variable {place : EventPlace} {msg : Msg} {s t : Chain} {governance : Address} {view : View}

/-- The call as it is sealed. -/
def sealedCall (place : EventPlace) (msg : Msg) (call : SampraanAssetRegistry.Call) (s t : Chain) :
    Sealed :=
  ⟨place, (msg, .assetRegistry call), s, t⟩

theorem move_steps {call : SampraanAssetRegistry.Call} {tokenId : ℕ} {custodian : Address}
    (forced : Bool) (updatedAt : ℕ)
    (h : SampraanAssetRegistry.MovesCustody tokenId custodian r r')
    (hcall : ∀ n, custodyMove n (sealedCall place msg call s t) =
      if tokenId = n then some (custodian, forced) else none)
    (hburn : ∀ n, isBurn n (sealedCall place msg call s t) = false)
    (hstore : store'.assets = if forced then store.assets else
      (store.changeAsset (toString tokenId) fun asset =>
        { asset with custodian := custodian, updatedAt := updatedAt }).assets) :
    TokenStep n (sealedCall place msg call s t) r r' store store' := by
  obtain ⟨time, hassets⟩ := h.assets
  by_cases hn : n = tokenId
  · subst hn
    refine .move custodian forced time updatedAt ?_ (hburn n) h.registered ?_ ?_
    · rw [hcall, if_pos rfl]
    · rw [hassets, Function.update_self]
    · rw [hstore]
      cases forced with
      | true => rfl
      | false => exact (EntityStore.assets_changeAsset _).trans (if_pos rfl)
  · refine .same ?_ (hburn n) ?_ ?_
    · rw [hcall, if_neg (Ne.symm hn)]
    · rw [hassets, Function.update_of_ne hn]
    · rw [hstore]
      cases forced with
      | true => rfl
      | false =>
        exact (EntityStore.assets_changeAsset _).trans (if_neg (toString_injective.ne hn))

theorem status_steps {call : SampraanAssetRegistry.Call} {tokenId : ℕ} {newStatus : AssetStatus}
    (h : SampraanAssetRegistry.ChangesStatus tokenId newStatus r r')
    (hcall : custodyMove n (sealedCall place msg call s t) = none)
    (hburn : isBurn n (sealedCall place msg call s t) = false)
    (hstore : handle place store (.assetStatusChanged tokenId (r.assets tokenId).assetIdDigest
      (r.assets tokenId).status newStatus msg.sender (uint64 msg.timestamp)) = some store') :
    TokenStep n (sealedCall place msg call s t) r r' store store' := by
  obtain ⟨time, hassets⟩ := h.assets
  obtain ⟨oldName, hold⟩ := statusNames_getElem? (r.assets tokenId).status
  obtain ⟨newName, hnew⟩ := statusNames_getElem? newStatus
  simp only [handle, handleAssetStatusChanged, hold, hnew, Option.bind_eq_bind, Option.bind_some,
    Option.some.injEq] at hstore
  subst hstore
  by_cases hn : n = tokenId
  · subst hn
    refine .status newStatus time (uint64 msg.timestamp) hcall hburn h.change ?_ ?_
    · rw [hassets, Function.update_self]
    · rw [EntityStore.assets_saveEvent, EntityStore.assets_changeAsset, if_pos rfl]
  · apply TokenStep.same hcall hburn
    · rw [hassets, Function.update_of_ne hn]
    · rw [EntityStore.assets_saveEvent, EntityStore.assets_changeAsset,
        if_neg (toString_injective.ne hn)]

theorem burn_steps {tokenId : ℕ} {reason : String} (h : SampraanAssetRegistry.Burns tokenId r r') :
    TokenStep n (sealedCall place msg (.governanceBurnNFT tokenId reason) s t) r r' store store := by
  obtain ⟨time, hassets⟩ := h.assets
  by_cases hn : n = tokenId
  · subst hn
    refine .burn time rfl ?_ h.live ?_ rfl
    · exact beq_self_eq_true n
    · rw [hassets, Function.update_self]
  · apply TokenStep.same rfl
    · exact beq_false_of_ne (Ne.symm hn)
    · rw [hassets, Function.update_of_ne hn]
    · rfl

theorem registerAsset_assets {d classificationDigest metadataDigest : Bytes32} {custodian : Address}
    (h : SampraanAssetRegistry.registerAsset view msg d custodian classificationDigest metadataDigest r =
      .ok r') :
    r'.assets = Function.update r.assets r.nextTokenId
      { assetIdDigest := d
        classificationDigest := classificationDigest
        metadataDigest := metadataDigest
        status := .pending
        custodian := custodian
        registeredAt := uint64 msg.timestamp
        statusChangedAt := uint64 msg.timestamp } := by
  simp only [SampraanAssetRegistry.registerAsset, SampraanAssetRegistry.onlyAssetManager, bind_assoc,
    revertIf_bind, checkedAdd_bind] at h
  obtain ⟨-, -, -, -, -, -, -, h⟩ := h
  obtain ⟨s', hmint, h⟩ := bind_eq_ok.mp h
  obtain ⟨-, -, balances, rfl⟩ := SampraanAssetRegistry.mint_ok hmint
  rw [pure_eq_ok] at h
  subst h
  rfl

theorem mint_steps {d classificationDigest metadataDigest : Bytes32} {custodian : Address}
    (h : SampraanAssetRegistry.registerAsset view msg d custodian classificationDigest metadataDigest
      s.assetRegistry = .ok r')
    (hnone : s.assetRegistry.status s.assetRegistry.nextTokenId = .none)
    (hunknown : store.assets (toString s.assetRegistry.nextTokenId) = none) :
    TokenStep n
      (sealedCall place msg (.registerAsset d custodian classificationDigest metadataDigest) s t)
      s.assetRegistry r' store (handleAssetRegistered place s.assetRegistry.nextTokenId d custodian
        classificationDigest (uint64 msg.timestamp) store) := by
  have hassets := registerAsset_assets h
  by_cases hn : n = s.assetRegistry.nextTokenId
  · subst hn
    let minted : AssetEntity :=
      { assetIdDigest := d
        classificationDigest := classificationDigest
        status := 1
        custodian := custodian
        creator := custodian
        mintTransactionHash := place.transactionHash
        mintBlockNumber := place.blockNumber
        mintedAt := uint64 msg.timestamp
        registeredAt := uint64 msg.timestamp
        updatedAt := place.blockTimestamp }
    have hself : (handleAssetRegistered place s.assetRegistry.nextTokenId d custodian
        classificationDigest (uint64 msg.timestamp) store).assets
          (toString s.assetRegistry.nextTokenId) = some minted := by
      rw [handleAssetRegistered, EntityStore.assets_saveEvent, EntityStore.assets_saveTransfer,
        EntityStore.assets_saveAsset, if_pos rfl, hunknown]
    refine .mint minted (if_pos rfl) rfl hnone hself ⟨?_, rfl⟩ ⟨?_, rfl⟩ ⟨?_, ?_, ?_⟩
    · rw [SampraanAssetRegistry.status, hassets, Function.update_self]
    · rw [SampraanAssetRegistry.custodian, hassets, Function.update_self]
    · rw [SampraanAssetRegistry.digest, hassets, Function.update_self]
    · rw [hassets, Function.update_self]
    · rw [hassets, Function.update_self]
  · refine .same (if_neg (Ne.symm hn)) rfl ?_ ?_
    · rw [hassets, Function.update_of_ne hn]
    · rw [handleAssetRegistered, EntityStore.assets_saveEvent, EntityStore.assets_saveTransfer,
        EntityStore.assets_saveAsset, if_neg (toString_injective.ne hn)]

theorem asset_steps {call : SampraanAssetRegistry.Call}
    (hrun : SampraanAssetRegistry.run governance view msg s.assetRegistry call = .ok r')
    (htokens : SampraanAssetRegistry.Tokens s.assetRegistry)
    (hunknown : ∀ n, s.assetRegistry.status n = .none → store.assets (toString n) = none)
    (hstore : takeIn takeReport (sealedCall place msg call s t).report store = some store') :
    TokenStep n (sealedCall place msg call s t) s.assetRegistry r' store store' := by
  have hdoes := SampraanAssetRegistry.run_does hrun
  have hquiet (hsame : SampraanAssetRegistry.SameCustody s.assetRegistry r')
      (hreport : (sealedCall place msg call s t).report = none)
      (hmove : custodyMove n (sealedCall place msg call s t) = none)
      (hburn : isBurn n (sealedCall place msg call s t) = false) :
      TokenStep n (sealedCall place msg call s t) s.assetRegistry r' store store' := by
    rw [hreport] at hstore
    obtain rfl : store = store' := Option.some.inj hstore
    exact .of_same hsame.assets rfl hmove hburn
  cases call with
  | registerAsset d custodian classificationDigest metadataDigest =>
    obtain rfl := Option.some.inj hstore
    have hnone := htokens.next_unregistered
    exact mint_steps hrun hnone (hunknown _ hnone)
  | assignAsset tokenId custodian =>
    obtain rfl := Option.some.inj hstore
    exact move_steps false (uint64 msg.timestamp) hdoes.2.2.2 (fun _ => rfl) (fun _ => rfl) rfl
  | transferCustody tokenId toCustodian =>
    obtain rfl := Option.some.inj hstore
    exact move_steps false (uint64 msg.timestamp) hdoes.2.2.2.2 (fun _ => rfl) (fun _ => rfl) rfl
  | governanceForceTransfer tokenId toCustodian reason =>
    obtain rfl := Option.some.inj hstore
    exact move_steps true 0 hdoes.2 (fun _ => rfl) (fun _ => rfl) rfl
  | governanceBurnNFT tokenId reason =>
    obtain rfl := Option.some.inj hstore
    exact burn_steps hdoes.2
  | activateAsset tokenId => exact status_steps hdoes.2 rfl rfl hstore
  | suspendAsset tokenId => exact status_steps hdoes.2 rfl rfl hstore
  | restoreAsset tokenId => exact status_steps hdoes.2 rfl rfl hstore
  | revokeAsset tokenId => exact status_steps hdoes.2 rfl rfl hstore
  | flagAnomaly target tokenId reason => exact hquiet hdoes.2.2.toSameCustody rfl rfl rfl
  | raiseDispute tokenId evidenceHash reason => exact hquiet hdoes.2.2.toSameCustody rfl rfl rfl
  | resolveDispute disputeId upheld reason => exact hquiet hdoes.2.2.toSameCustody rfl rfl rfl
  | storeAuditReportHash reportHash => exact hquiet hdoes.2.toSameCustody rfl rfl rfl
  | governancePause => exact hquiet hdoes.2.toSameCustody rfl rfl rfl
  | governanceUnpause => exact hquiet hdoes.2.toSameCustody rfl rfl rfl
  | _ => exact hdoes.elim

/-! ### The other contracts -/

def isAssetEvent : IndexedEvent → Bool
  | .assetRegistered .. | .assetAssigned .. | .assetTransferred .. | .assetStatusChanged .. => true
  | _ => false

theorem handle_of_not_asset {event : IndexedEvent} (hevent : isAssetEvent event = false)
    (h : handle place store event = some store') : store'.assets = store.assets := by
  cases event with
  | roleGranted role account sender =>
    obtain rfl := Option.some.inj h
    rfl
  | roleRevoked role account sender =>
    obtain rfl := Option.some.inj h
    rfl
  | identityRegistered wallet didDigest publicKeyDigest registeredAt =>
    obtain rfl := Option.some.inj h
    rfl
  | identityStatusChanged wallet didDigest oldStatus newStatus changedAt =>
    simp only [handle, handleIdentityStatusChanged, Option.bind_eq_bind,
      Option.bind_eq_some_iff] at h
    obtain ⟨oldName, -, newName, -, h⟩ := h
    obtain rfl := Option.some.inj h
    simp
  | _ => cases hevent

/-- A handler saves no asset but under the id of a token. -/
theorem handle_ids {event : IndexedEvent} {id : String} {asset : AssetEntity}
    (h : handle place store event = some store') (hasset : store'.assets id = some asset) :
    (∃ asset, store.assets id = some asset) ∨ ∃ n : ℕ, id = toString n := by
  by_cases hevent : isAssetEvent event = true
  · cases event with
    | assetRegistered tokenId d custodian classificationDigest metadataDigest registeredAt =>
      obtain rfl := Option.some.inj h
      rw [handleAssetRegistered, EntityStore.assets_saveEvent, EntityStore.assets_saveTransfer,
        EntityStore.assets_saveAsset] at hasset
      split at hasset
      case isTrue hid => exact .inr ⟨tokenId, hid⟩
      case isFalse => exact .inl ⟨_, hasset⟩
    | assetAssigned tokenId d custodian operator assignedAt =>
      obtain rfl := Option.some.inj h
      rw [handleAssetAssigned, handleMove, EntityStore.assets_saveTransfer,
        EntityStore.assets_changeAsset] at hasset
      split at hasset
      case isTrue hid => exact .inr ⟨tokenId, hid⟩
      case isFalse => exact .inl ⟨_, hasset⟩
    | assetTransferred tokenId d fromCustodian toCustodian operator transferredAt =>
      obtain rfl := Option.some.inj h
      rw [handleAssetTransferred, handleMove, EntityStore.assets_saveTransfer,
        EntityStore.assets_changeAsset] at hasset
      split at hasset
      case isTrue hid => exact .inr ⟨tokenId, hid⟩
      case isFalse => exact .inl ⟨_, hasset⟩
    | assetStatusChanged tokenId d oldStatus newStatus operator changedAt =>
      simp only [handle, handleAssetStatusChanged, Option.bind_eq_bind, Option.bind_eq_some_iff] at h
      obtain ⟨oldName, -, newName, -, h⟩ := h
      obtain rfl := Option.some.inj h
      rw [EntityStore.assets_saveEvent, EntityStore.assets_changeAsset] at hasset
      split at hasset
      case isTrue hid => exact .inr ⟨tokenId, hid⟩
      case isFalse => exact .inl ⟨_, hasset⟩
    | _ => cases hevent
  · rw [Bool.not_eq_true] at hevent
    rw [handle_of_not_asset hevent h] at hasset
    exact .inl ⟨_, hasset⟩

end

theorem accessControl_event' {msg : Msg} {s : SampraanAccessControl}
    {call : SampraanAccessControl.Call} : ∀ e ∈ call.indexedEvent msg s, isAssetEvent e = false := by
  intro e he
  cases call <;>
    · simp only [SampraanAccessControl.Call.indexedEvent] at he
      split at he <;> cases he <;> rfl

theorem identityRegistry_event {msg : Msg} {s : SampraanIdentityRegistry}
    {call : SampraanIdentityRegistry.Call} :
    ∀ e ∈ call.indexedEvent msg s, isAssetEvent e = false := by
  intro e he
  cases call <;> cases he <;> rfl

/-! ### Every run -/

section

variable {m : Sealed} {store store' : EntityStore}

theorem takeIn_assets (hevent : ∀ e ∈ Chain.indexedEvent m.call, isAssetEvent e = false)
    (h : takeIn takeReport m.report store = some store') : store'.assets = store.assets := by
  rw [Sealed.report] at h
  cases hcall : Chain.indexedEvent m.call with
  | none =>
    rw [hcall] at h
    obtain rfl := Option.some.inj h
    rfl
  | some event =>
    rw [hcall] at h
    exact handle_of_not_asset (hevent event hcall) h

theorem takeIn_ids {id : String} {asset : AssetEntity}
    (h : takeIn takeReport m.report store = some store') (hasset : store'.assets id = some asset) :
    (∃ asset, store.assets id = some asset) ∨ ∃ n : ℕ, id = toString n := by
  rw [Sealed.report] at h
  cases hcall : Chain.indexedEvent m.call with
  | none =>
    rw [hcall] at h
    obtain rfl := Option.some.inj h
    exact .inl ⟨asset, hasset⟩
  | some event =>
    rw [hcall] at h
    exact handle_ids h hasset

end

variable {governance : Address} {accessControl : SampraanAccessControl} {history : List Sealed}
  {s : Chain} {store : EntityStore}

def sampleAssets : List (Msg × Chain.Call) :=
  let admin : Msg := { sender := 0xA11CE, timestamp := 1700000000 }
  let governor : Msg := { sender := 0x60, timestamp := 1700000500 }
  [(admin, .identityRegistry (.registerIdentity 0xB0B 0xD1D 0x9B)),
    (admin, .identityRegistry (.verifyIdentity 0xB0B "papers seen")),
    (admin, .assetRegistry (.registerAsset 0xA55E7 0xB0B 0xC1 0x3D)),
    (admin, .assetRegistry (.activateAsset 1)),
    (governor, .assetRegistry (.governanceForceTransfer 1 0xCA401 "recovery")),
    (governor, .assetRegistry (.governanceBurnNFT 1 "compromised"))]

end Sampraan.Graph
