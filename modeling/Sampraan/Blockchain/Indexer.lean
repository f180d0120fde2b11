import Sampraan.Governance.Actors
import Sampraan.Backend.Besu

/-! `chain-event-indexer.ts`: the events of the contracts, projected into `audit_events`. -/

namespace Sampraan.Blockchain

open Backend Library
open Governance (Audits)

variable (env : Environment)

structure NetworkStatus where
  connected : Bool
  latestBlock : ℕ
  deriving DecidableEq

structure IndexerResult where
  indexed : ℕ
  skipped : ℕ
  latestBlock : ℕ
  deriving DecidableEq

def noScan : IndexerResult where
  indexed := 0
  skipped := 0
  latestBlock := 0

/-! ### What the indexer reads -/

def getNetworkStatus (besu : BesuConfig) : Promise NetworkStatus :=
  tryCatch
    (do
      Besu.ensureInitialized besu
      let latestBlock ← Besu.view fun ledger => ledger.latestBlock
      pure { connected := true, latestBlock := latestBlock })
    fun _ => pure { connected := false, latestBlock := 0 }

def contractAddresses (besu : BesuConfig) : List String :=
  [besu.identityContractAddress, besu.assetContractAddress, besu.accessControlContractAddress,
    besu.governanceContractAddress].filterMap fun address => address.filter (· ≠ "")

def getEvents (besu : BesuConfig) (fromBlock toBlock : ℕ) : Promise (List ChainEvent) := do
  Besu.ensureInitialized besu
  Besu.view fun _ => ()
  if contractAddresses besu = [] then pure []
  else Besu.view fun ledger =>
    ledger.events.filter fun e => fromBlock ≤ e.blockNumber ∧ e.blockNumber ≤ toBlock

/-- A select that the database refuses while `refuses` holds. -/
def selectUnless {α : Type} (refuses : World → Bool) (f : World → α) : Promise α := do
  match ← Async.query fun w => (refuses w, f w) with
  | (true, _) => throw (.other "Failed query")
  | (false, a) => pure a

def select {α : Type} (f : World → α) : Promise α := selectUnless World.databaseFails f

def chainReadModel (w : World) : List AuditEventRow :=
  w.auditEvents.filter (·.source == .chainReadModel)

def getMaxIndexedChainBlock : Promise (Option ℕ) :=
  if !env.databaseConfigured then pure none
  else select fun w => ((chainReadModel w).filterMap AuditEventRow.blockNumber).max?

def listIndexedChainEventKeys : Promise (List String) :=
  if !env.databaseConfigured then pure []
  else selectUnless World.dedupReadsFail fun w =>
    ((chainReadModel w).take 5000).filterMap AuditEventRow.eventKey

def listIndexedChainTxHashes : Promise (List String) :=
  if !env.databaseConfigured then pure []
  else selectUnless World.dedupReadsFail fun w =>
    ((chainReadModel w).filterMap AuditEventRow.transactionHash).filter (· ≠ "")

/-! ### The projection -/

def indexedActions : List (String × String) :=
  [("IdentityRegistered", "IDENTITY_REGISTERED_ON_CHAIN"),
   ("IdentityStatusChanged", "IDENTITY_STATUS_CHANGED_ON_CHAIN"),
   ("AssetRegistered", "ASSET_REGISTERED_ON_CHAIN"),
   ("AssetAssigned", "ASSET_ASSIGNED_ON_CHAIN"),
   ("AssetTransferred", "ASSET_TRANSFERRED_ON_CHAIN"),
   ("AssetStatusChanged", "ASSET_STATUS_CHANGED_ON_CHAIN"),
   ("RoleGranted", "ROLE_GRANTED_ON_CHAIN"),
   ("RoleRevoked", "ROLE_REVOKED_ON_CHAIN"),
   ("IdentityVerified", "USER_VERIFIED_ON_CHAIN"),
   ("IdentitySuspended", "ACCESS_SUSPENDED_ON_CHAIN"),
   ("IdentityReactivated", "ACCESS_REACTIVATED_ON_CHAIN"),
   ("IdentityDeactivated", "IDENTITY_DEACTIVATED_ON_CHAIN"),
   ("DIDDocumentUpdated", "DID_DOCUMENT_UPDATED_ON_CHAIN"),
   ("NFTMinted", "NFT_MINTED_ON_CHAIN"),
   ("NFTAssigned", "NFT_ASSIGNED_ON_CHAIN"),
   ("NFTRevoked", "NFT_REVOKED_ON_CHAIN"),
   ("ForcedTransfer", "FORCED_TRANSFER_ON_CHAIN"),
   ("SystemPaused", "SYSTEM_PAUSED_ON_CHAIN"),
   ("SystemUnpaused", "SYSTEM_UNPAUSED_ON_CHAIN"),
   ("DisputeRaised", "DISPUTE_RAISED_ON_CHAIN"),
   ("DisputeResolved", "DISPUTE_RESOLVED_ON_CHAIN"),
   ("AnomalyFlagged", "ANOMALY_FLAGGED_ON_CHAIN"),
   ("AuditReportHashStored", "AUDIT_REPORT_HASH_STORED_ON_CHAIN"),
   ("ProposalCreated", "GOVERNANCE_PROPOSAL_CREATED_ON_CHAIN"),
   ("ProposalApproved", "GOVERNANCE_PROPOSAL_APPROVED_ON_CHAIN"),
   ("ProposalCancelled", "GOVERNANCE_PROPOSAL_CANCELLED_ON_CHAIN"),
   ("ProposalExecuted", "GOVERNANCE_PROPOSAL_EXECUTED_ON_CHAIN")]

def eventKey (event : ChainEvent) : String :=
  s!"{event.transactionHash}:{event.name}:" ++
    (event.tokenId.getD (event.wallet.getD ""))

def project (event : ChainEvent) : Option AuditEventRow :=
  (indexedActions.lookup event.name).map fun action =>
    { actorIdentityId := none
      action := action
      resourceType := "CHAIN"
      resourceId := event.assetIdDigest.getD (event.didDigest.getD event.transactionHash)
      decision := .allow
      reason := s!"On-chain event {event.name} at block {event.blockNumber}"
      transactionHash := some event.transactionHash
      blockNumber := some event.blockNumber
      source := .chainReadModel
      eventKey := some (eventKey event) }

/-- `createAuditEvent`, of which nothing is caught here. -/
def storeAuditEvent (event : AuditEventRow) : Promise Unit :=
  if !env.databaseConfigured then pure ()
  else do
    let stored ← Async.statement fun w =>
      if w.databaseFails then (false, w)
      else (true, { w with auditEvents := w.auditEvents ++ [event] })
    if !stored then throw (.other "Failed query")
    else select fun _ => ()

/-! ### A scan -/

def rememberKeys (keys : List String) : Promise Unit :=
  Async.statement fun w => ((), { w with indexedEventKeys := w.indexedEventKeys ++ keys })

/-- The loop over the events, with how many it has projected and skipped so far. -/
def projectEvents (persistedKeys legacyTxHashes : List String) :
    List ChainEvent → ℕ → ℕ → Promise (ℕ × ℕ)
  | [], indexed, skipped => pure (indexed, skipped)
  | event :: events, indexed, skipped => do
    let known ← Async.query fun w => w.indexedEventKeys.contains (eventKey event)
    if known || persistedKeys.contains (eventKey event) then
      projectEvents persistedKeys legacyTxHashes events indexed (skipped + 1)
    else
      match project event with
      | none => projectEvents persistedKeys legacyTxHashes events indexed (skipped + 1)
      | some projected =>
        if legacyTxHashes.contains event.transactionHash then
          projectEvents persistedKeys legacyTxHashes events indexed (skipped + 1)
        else do
          storeAuditEvent env projected
          rememberKeys [eventKey event]
          projectEvents persistedKeys legacyTxHashes events (indexed + 1) skipped

def firstBlock (checkpoint : Option ℕ) (windowBlocks latestBlock : ℕ) : ℕ :=
  match checkpoint with
  | some block => min (max (latestBlock - windowBlocks) block) latestBlock
  | none => latestBlock - windowBlocks

def scanBlocks (besu : BesuConfig) (windowBlocks latestBlock : ℕ) : Promise IndexerResult := do
  let checkpoint ← tryCatch (getMaxIndexedChainBlock env) fun _ => pure none
  let fromBlock := firstBlock checkpoint windowBlocks latestBlock
  tryCatch (do rememberKeys (← listIndexedChainEventKeys env)) fun _ => pure ()
  let events ← tryCatch (getEvents besu fromBlock latestBlock) fun error =>
    throw (.other
      s!"Chain event scan failed for blocks {fromBlock}..{latestBlock}: {describeError error}")
  let persistedKeys ← tryCatch (listIndexedChainEventKeys env) fun _ => pure []
  let legacyTxHashes ← tryCatch (listIndexedChainTxHashes env) fun _ => pure []
  let (indexed, skipped) ← projectEvents env persistedKeys legacyTxHashes events 0 0
  pure { indexed := indexed, skipped := skipped, latestBlock := latestBlock }

def runScan (windowBlocks : ℕ) : Promise IndexerResult :=
  match env.besu with
  | none => pure noScan
  | some besu => do
    let status ← getNetworkStatus besu
    if !status.connected then pure noScan
    else scanBlocks env besu windowBlocks status.latestBlock

def setIndexing (indexing : Bool) : Promise Bool :=
  Async.statement fun w => (w.indexing, { w with indexing := indexing })

def indexRecentEvents (windowBlocks : ℕ) : Promise IndexerResult := do
  if ← setIndexing true then pure noScan
  else do
    let result ← tryCatch (runScan env windowBlocks) fun error => do
      let _ ← setIndexing false
      throw error
    let _ ← setIndexing false
    pure result

/-! ### What a scan writes -/

/-- The step appends to the audit trail or writes the memory of the indexer. -/
def Indexes (s t : World) : Prop :=
  ∃ rows indexing keys, t =
    { s with
      auditEvents := s.auditEvents ++ rows
      indexing := indexing
      indexedEventKeys := keys }

theorem Indexes.refl (s : World) : Indexes s s := ⟨[], s.indexing, s.indexedEventKeys, by simp⟩

section

variable {I : World → Prop} {T : World → World → Prop}

theorem getNetworkStatus_obeys (hT : ∀ s, T s s) (besu : BesuConfig) :
    (getNetworkStatus besu).Obeys I T := by
  apply Async.Obeys.recover
  · apply (Besu.ensureInitialized_obeys besu).bind
    intro _
    apply (Besu.view_obeys hT _).bind
    intro latestBlock
    exact Async.obeys_pure _
  · intro _
    exact Async.obeys_pure _

theorem getEvents_obeys (hT : ∀ s, T s s) (besu : BesuConfig) (fromBlock toBlock : ℕ) :
    (getEvents besu fromBlock toBlock).Obeys I T := by
  apply (Besu.ensureInitialized_obeys besu).bind
  intro _
  apply (Besu.view_obeys hT _).bind
  intro _
  exact .ite (Async.obeys_pure _) (Besu.view_obeys hT _)

theorem select_obeys (hT : ∀ s, T s s) {α : Type} (refuses : World → Bool) (f : World → α) :
    (selectUnless refuses f).Obeys I T := by
  apply (Async.obeys_query hT).bind
  rintro ⟨_ | _, a⟩
  · exact Async.obeys_pure _
  · exact Async.obeys_throw _

theorem ifConfigured_obeys (hT : ∀ s, T s s) {α : Type} (a : α) (refuses : World → Bool)
    (f : World → α) :
    (if !env.databaseConfigured then pure a else selectUnless refuses f : Promise α).Obeys I T :=
  .ite (Async.obeys_pure a) (select_obeys hT refuses f)

/-- A scan reads, writes the memory of the indexer and, with a database, appends to the trail. -/
structure LetsIndex (T : World → World → Prop) : Prop where
  refl : ∀ s, T s s
  memory : ∀ s indexing keys, T s { s with indexing := indexing, indexedEventKeys := keys }
  store : env.databaseConfigured = true →
    ∀ s row, T s { s with auditEvents := s.auditEvents ++ [row] }

variable {env} (hT : LetsIndex env T)

include hT

theorem storeAuditEvent_obeys (event : AuditEventRow) : (storeAuditEvent env event).Obeys I T := by
  unfold storeAuditEvent
  cases hconfigured : env.databaseConfigured with
  | false => exact Async.obeys_pure _
  | true =>
    apply Async.Obeys.bind
    · apply Async.obeys_statement
      intro s _
      split
      · exact hT.refl s
      · exact hT.store hconfigured s event
    intro stored
    exact .ite (Async.obeys_throw _) (select_obeys hT.refl _ _)

theorem rememberKeys_obeys (keys : List String) : (rememberKeys keys).Obeys I T :=
  Async.obeys_statement fun s _ => hT.memory s s.indexing (s.indexedEventKeys ++ keys)

theorem setIndexing_obeys (indexing : Bool) : (setIndexing indexing).Obeys I T :=
  Async.obeys_statement fun s _ => hT.memory s indexing s.indexedEventKeys

theorem projectEvents_obeys (persistedKeys legacyTxHashes : List String) (events : List ChainEvent)
    (indexed skipped : ℕ) :
    (projectEvents env persistedKeys legacyTxHashes events indexed skipped).Obeys I T := by
  induction events generalizing indexed skipped with
  | nil => exact Async.obeys_pure _
  | cons event events ih =>
    apply (Async.obeys_query hT.refl).bind
    intro known
    apply Async.Obeys.ite
    · exact ih _ _
    cases project event with
    | none => exact ih _ _
    | some projected =>
      apply Async.Obeys.ite
      · exact ih _ _
      apply (storeAuditEvent_obeys hT projected).bind
      intro _
      apply (rememberKeys_obeys hT _).bind
      intro _
      exact ih _ _

theorem scanBlocks_obeys (besu : BesuConfig) (windowBlocks latestBlock : ℕ) :
    (scanBlocks env besu windowBlocks latestBlock).Obeys I T := by
  have hread : ∀ {α : Type} (a : α) (refuses : World → Bool) (f : World → α),
      (if !env.databaseConfigured then pure a else selectUnless refuses f : Promise α).Obeys I T :=
    fun a refuses f => ifConfigured_obeys env hT.refl a refuses f
  apply ((hread none _ _).recover fun _ => Async.obeys_pure none).bind
  intro checkpoint
  apply (((hread [] _ _).bind fun keys => rememberKeys_obeys hT keys).recover
    fun _ => Async.obeys_pure ()).bind
  intro _
  apply ((getEvents_obeys hT.refl besu _ latestBlock).recover fun _ => Async.obeys_throw _).bind
  intro events
  apply ((hread [] _ _).recover fun _ => Async.obeys_pure []).bind
  intro persistedKeys
  apply ((hread [] _ _).recover fun _ => Async.obeys_pure []).bind
  intro legacyTxHashes
  apply (projectEvents_obeys hT persistedKeys legacyTxHashes events 0 0).bind
  intro counts
  exact Async.obeys_pure _

theorem runScan_obeys (windowBlocks : ℕ) : (runScan env windowBlocks).Obeys I T := by
  unfold runScan
  cases env.besu with
  | none => exact Async.obeys_pure _
  | some besu =>
    apply (getNetworkStatus_obeys hT.refl besu).bind
    intro status
    exact .ite (Async.obeys_pure _) (scanBlocks_obeys hT besu windowBlocks status.latestBlock)

theorem indexRecentEvents_obeys (windowBlocks : ℕ) :
    (indexRecentEvents env windowBlocks).Obeys I T := by
  apply (setIndexing_obeys hT true).bind
  intro busy
  apply Async.Obeys.ite
  · exact Async.obeys_pure _
  apply ((runScan_obeys hT windowBlocks).recover fun error =>
    (setIndexing_obeys hT false).bind fun _ => Async.obeys_throw error).bind
  intro result
  exact (setIndexing_obeys hT false).bind fun _ => Async.obeys_pure result

end

theorem indexRecentEvents_indexes {I : World → Prop} (windowBlocks : ℕ) :
    (indexRecentEvents env windowBlocks).Obeys I Indexes := by
  refine indexRecentEvents_obeys ⟨.refl, fun s indexing keys => ?_, fun _ s row => ?_⟩ windowBlocks
  · exact ⟨[], indexing, keys, by simp⟩
  · exact ⟨[row], s.indexing, s.indexedEventKeys, rfl⟩

end Sampraan.Blockchain
