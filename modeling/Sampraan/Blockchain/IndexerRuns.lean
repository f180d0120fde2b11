import Sampraan.Blockchain.Indexer
import Sampraan.Library.Phases

/-!
Scans by one indexer process at a time. A process that crashes leaves its scans
where they are, and the next one starts with an empty memory.
-/

namespace Sampraan.Blockchain

open Backend Library

/-- `process` is the one that makes the scan, counted by the restarts before it. -/
structure ScanCall where
  process : ℕ
  windowBlocks : ℕ
  deriving DecidableEq

def restart (w : World) : World :=
  { w with indexing := false, indexedEventKeys := [], restarts := w.restarts + 1 }

/-- What goes on besides the scans: only they write rows of the chain read model. -/
structure Outside (chain : Ledger → Ledger → Prop) (s t : World) : Prop where
  rows : chainReadModel t = chainReadModel s
  indexing : t.indexing = s.indexing
  indexedEventKeys : t.indexedEventKeys = s.indexedEventKeys
  restarts : t.restarts = s.restarts
  ledger : chain s.ledger t.ledger

/-- The chain grows by `chain`; the process may crash in a state with `crash`. -/
def indexerSystem (env : Environment) (chain : Ledger → Ledger → Prop) (crash : World → Prop) :
    System ScanCall World Error IndexerResult where
  body call := indexRecentEvents env call.windowBlocks
  interfere s t := Outside chain s t ∨ (crash s ∧ t = restart s)

/-- A statement is run by the process that lives, and meets `P`. -/
def ByLiving (P : ScanCall → List (World × World) → World → Prop) (call : ScanCall)
    (h : List (World × World)) (s : World) : Prop :=
  call.process = s.restarts ∧ P call h s

instance (P : ScanCall → List (World × World) → World → Prop) [∀ call h s, Decidable (P call h s)]
    (call : ScanCall) (h : List (World × World)) (s : World) : Decidable (ByLiving P call h s) :=
  inferInstanceAs (Decidable (_ ∧ _))

/-! ### The stages of a scan -/

/-- What the loop over the events goes by. -/
structure Seen where
  latestBlock : ℕ
  persistedKeys : List String
  legacyTxHashes : List String

inductive ScanStage where
  | over
  | waiting
  | begun
  | leaving
  | scanning (latestBlock : ℕ)
  | ranged (latestBlock fromBlock : ℕ)
  | seeding (latestBlock fromBlock : ℕ) (keys : List String)
  | seeded (latestBlock fromBlock : ℕ)
  | probed (latestBlock fromBlock : ℕ)
  | fetched (latestBlock : ℕ) (events : List ChainEvent)
  | keyed (latestBlock : ℕ) (events : List ChainEvent) (persistedKeys : List String)
  | projecting (seen : Seen) (events : List ChainEvent)
  | checked (seen : Seen) (event : ChainEvent) (row : AuditEventRow) (events : List ChainEvent)
  | stored (seen : Seen) (event : ChainEvent) (events : List ChainEvent)
  | settled (latestBlock : ℕ)

def ScanStage.busy : ScanStage → Bool
  | .over | .waiting | .settled _ => false
  | _ => true

structure ScanPhase where
  call : ScanCall
  stage : ScanStage

def noPhase : ScanPhase := ⟨⟨0, 0⟩, .over⟩

def entryPhase (call : ScanCall) : ScanPhase := ⟨call, .waiting⟩

/-- What `getEvents` returns. -/
def loggedEvents (env : Environment) (fromBlock toBlock : ℕ) (w : World) : List ChainEvent :=
  if env.besu.any fun besu => contractAddresses besu ≠ [] then
    w.ledger.events.filter fun e => fromBlock ≤ e.blockNumber ∧ e.blockNumber ≤ toBlock
  else []

def storedKeys (w : World) : List String := (chainReadModel w).filterMap AuditEventRow.eventKey

def storedHashes (w : World) : List String :=
  ((chainReadModel w).filterMap AuditEventRow.transactionHash).filter (· ≠ "")

def checkpoint (w : World) : Option ℕ :=
  ((chainReadModel w).filterMap AuditEventRow.blockNumber).max?

/-- The event is passed over in the state `w`. -/
def PassedOver (seen : Seen) (event : ChainEvent) (w : World) : Prop :=
  eventKey event ∈ w.indexedEventKeys ∨ eventKey event ∈ seen.persistedKeys ∨
    project event = none ∨ event.transactionHash ∈ seen.legacyTxHashes

/-- The statements of a scan between those that take and give back the guard. -/
inductive ScanWork (env : Environment) : ScanPhase → World → World → ScanPhase → Prop
  | fail {call stage s} (hbusy : stage.busy = true) :
    ScanWork env ⟨call, stage⟩ s s ⟨call, .leaving⟩
  | head {call s} : ScanWork env ⟨call, .begun⟩ s s ⟨call, .scanning s.ledger.latestBlock⟩
  | range {call latestBlock s} (block : Option ℕ) (hblock : block = none ∨ block = checkpoint s) :
    ScanWork env ⟨call, .scanning latestBlock⟩ s s
      ⟨call, .ranged latestBlock (firstBlock block call.windowBlocks latestBlock)⟩
  | seed {call latestBlock fromBlock s} (keys : List String) (hkeys : keys ⊆ storedKeys s) :
    ScanWork env ⟨call, .ranged latestBlock fromBlock⟩ s s
      ⟨call, .seeding latestBlock fromBlock keys⟩
  | unseeded {call latestBlock fromBlock s} :
    ScanWork env ⟨call, .ranged latestBlock fromBlock⟩ s s ⟨call, .seeded latestBlock fromBlock⟩
  | remember {call latestBlock fromBlock keys s} :
    ScanWork env ⟨call, .seeding latestBlock fromBlock keys⟩ s
      { s with indexedEventKeys := s.indexedEventKeys ++ keys } ⟨call, .seeded latestBlock fromBlock⟩
  | probe {call latestBlock fromBlock s} :
    ScanWork env ⟨call, .seeded latestBlock fromBlock⟩ s s ⟨call, .probed latestBlock fromBlock⟩
  | unaddressed {call latestBlock fromBlock s} (hnone : loggedEvents env fromBlock latestBlock s = []) :
    ScanWork env ⟨call, .seeded latestBlock fromBlock⟩ s s ⟨call, .fetched latestBlock []⟩
  | fetch {call latestBlock fromBlock s} :
    ScanWork env ⟨call, .probed latestBlock fromBlock⟩ s s
      ⟨call, .fetched latestBlock (loggedEvents env fromBlock latestBlock s)⟩
  | keys {call latestBlock events s} (keys : List String) (hkeys : keys ⊆ storedKeys s) :
    ScanWork env ⟨call, .fetched latestBlock events⟩ s s ⟨call, .keyed latestBlock events keys⟩
  | hashes {call latestBlock events keys s} (hashes : List String) (hhashes : hashes ⊆ storedHashes s)
    (hall : s.dedupReadsFail = false → hashes = storedHashes s) :
    ScanWork env ⟨call, .keyed latestBlock events keys⟩ s s
      ⟨call, .projecting ⟨latestBlock, keys, hashes⟩ events⟩
  | pass {call seen event events s} (hpass : PassedOver seen event s) :
    ScanWork env ⟨call, .projecting seen (event :: events)⟩ s s ⟨call, .projecting seen events⟩
  | check {call seen event events row s} (hpass : ¬ PassedOver seen event s)
    (hrow : project event = some row) :
    ScanWork env ⟨call, .projecting seen (event :: events)⟩ s s ⟨call, .checked seen event row events⟩
  | store {call seen event row events s} :
    ScanWork env ⟨call, .checked seen event row events⟩ s
      { s with auditEvents := s.auditEvents ++ [row] } ⟨call, .stored seen event events⟩
  | confirm {call seen event events s} :
    ScanWork env ⟨call, .stored seen event events⟩ s s ⟨call, .stored seen event events⟩
  | note {call seen event events s} :
    ScanWork env ⟨call, .stored seen event events⟩ s
      { s with indexedEventKeys := s.indexedEventKeys ++ [eventKey event] }
      ⟨call, .projecting seen events⟩

theorem ScanWork.busy {env : Environment} {φ φ' : ScanPhase} {s t : World}
    (h : ScanWork env φ s t φ') : φ.stage.busy = true ∧ φ'.stage.busy = true ∧ φ'.call = φ.call := by
  cases h with
  | fail hbusy => exact ⟨hbusy, rfl, rfl⟩
  | _ => exact ⟨rfl, rfl, rfl⟩

inductive ScanStep (env : Environment) : ScanPhase → World → World → ScanPhase → Prop
  | refuse {call s} (hs : s.indexing = true) : ScanStep env ⟨call, .waiting⟩ s s ⟨call, .over⟩
  | begin {call s} (hs : s.indexing = false) :
    ScanStep env ⟨call, .waiting⟩ s { s with indexing := true } ⟨call, .begun⟩
  | work {φ s t φ'} (hwork : ScanWork env φ s t φ') : ScanStep env φ s t φ'
  | release {call seen s} :
    ScanStep env ⟨call, .projecting seen []⟩ s { s with indexing := false }
      ⟨call, .settled seen.latestBlock⟩
  | abort {call stage s} (hbusy : stage.busy = true) :
    ScanStep env ⟨call, stage⟩ s { s with indexing := false } ⟨call, .over⟩

/-- A scan that has come to its end has settled the blocks up to the one it reports. -/
def Reported (r : IndexerResult) (φ : ScanPhase) : Prop :=
  0 < r.latestBlock → φ.stage = .settled r.latestBlock

/-! ### What a scan goes through -/

section

variable {env : Environment} {call : ScanCall}

theorem recovered_select {α : Type} (refuses : World → Bool) (f : World → α) (a : α) :
    (tryCatch (selectUnless refuses f) fun _ => pure a : Promise α) =
      Async.query fun w => if refuses w then a else f w := by
  change Async.pending _ _ = Async.pending _ _
  congr 1
  funext s
  cases hs : refuses s with
  | false =>
    simp only [hs]
    rfl
  | true =>
    simp only [hs]
    rfl

theorem storeAuditEvent_follows (hconfigured : env.databaseConfigured = true) {seen : Seen}
    {event : ChainEvent} {row : AuditEventRow} {events : List ChainEvent} :
    (storeAuditEvent env row).Follows (ScanWork env) (fun _ φ => φ = ⟨call, .stored seen event events⟩)
      ⟨call, .checked seen event row events⟩ := by
  simp only [storeAuditEvent, hconfigured, Bool.not_true, Bool.false_eq_true, ↓reduceIte]
  apply Async.Follows.bind (R := fun stored φ =>
    φ = ⟨call, if stored then .stored seen event events else .leaving⟩)
  · apply Async.follows_statement fun s =>
      ⟨call, if s.databaseFails then .leaving else .stored seen event events⟩
    · intro s
      split
      · exact .fail rfl
      · exact .store
    · intro s
      split <;> rfl
  rintro (_ | _) φ rfl
  · exact .rejected _ _
  · refine Async.follows_query ?_
    rintro s ⟨_ | _, _⟩ -
    · exact ⟨_, .confirm, .fulfilled rfl⟩
    · exact ⟨_, .fail rfl, .rejected _ _⟩

theorem projectEvents_follows (hconfigured : env.databaseConfigured = true) (latestBlock : ℕ)
    (persistedKeys legacyTxHashes : List String) (events : List ChainEvent) (indexed skipped : ℕ) :
    (projectEvents env persistedKeys legacyTxHashes events indexed skipped).Follows (ScanWork env)
      (fun _ φ => φ = ⟨call, .projecting ⟨latestBlock, persistedKeys, legacyTxHashes⟩ []⟩)
      ⟨call, .projecting ⟨latestBlock, persistedKeys, legacyTxHashes⟩ events⟩ := by
  induction events generalizing indexed skipped with
  | nil => exact .fulfilled rfl
  | cons event events ih =>
    refine Async.follows_query fun s known hread => ?_
    subst hread
    by_cases hknown : (s.indexedEventKeys.contains (eventKey event) ||
        persistedKeys.contains (eventKey event)) = true
    · refine ⟨⟨call, .projecting _ events⟩, .pass ?_, ?_⟩
      · rw [Bool.or_eq_true, List.contains_iff_mem, List.contains_iff_mem] at hknown
        exact hknown.elim .inl fun h => .inr (.inl h)
      · rw [if_pos hknown]
        exact ih _ _
    rw [if_neg hknown]
    cases hrow : project event with
    | none => exact ⟨⟨call, .projecting _ events⟩, .pass (.inr (.inr (.inl hrow))), ih _ _⟩
    | some row =>
      by_cases hlegacy : legacyTxHashes.contains event.transactionHash = true
      · refine ⟨⟨call, .projecting _ events⟩, .pass ?_, ?_⟩
        · exact .inr (.inr (.inr (List.contains_iff_mem.mp hlegacy)))
        · simp only [hlegacy, ↓reduceIte]
          exact ih _ _
      refine ⟨⟨call, .checked _ event row events⟩, .check ?_ hrow, ?_⟩
      · rw [Bool.or_eq_true, List.contains_iff_mem, List.contains_iff_mem] at hknown
        rw [List.contains_iff_mem] at hlegacy
        simp only [PassedOver, hrow, reduceCtorEq]
        tauto
      simp only [hlegacy, Bool.false_eq_true, ↓reduceIte]
      apply (storeAuditEvent_follows hconfigured).bind
      rintro _ φ rfl
      exact Async.follows_statement_bind (fun _ => _) (fun _ => .note) fun _ => ih _ _

theorem getNetworkStatus_follows (besu : BesuConfig) :
    (getNetworkStatus besu).Follows (ScanWork env)
      (fun status φ => φ = ⟨call, .scanning status.latestBlock⟩ ∨
        status.connected = false ∧ φ.call = call ∧ φ.stage.busy = true)
      ⟨call, .begun⟩ := by
  unfold getNetworkStatus Besu.ensureInitialized
  cases besu.initializationError with
  | some message => exact .fulfilled (.inr ⟨rfl, rfl, rfl⟩)
  | none =>
    refine Async.Follows.intro fun s => ?_
    cases hs : s.ledger.refusal with
    | none =>
      refine ⟨_, .head, ?_⟩
      simp only [hs]
      exact .fulfilled (.inl rfl)
    | some message =>
      refine ⟨_, .fail rfl, ?_⟩
      simp only [hs]
      exact .fulfilled (.inr ⟨rfl, rfl, rfl⟩)

theorem view_follows {α : Type} (f : Ledger → α) {φ : ScanPhase} (after : World → ScanPhase)
    (hbusy : φ.stage.busy = true) (hafter : ∀ s, ScanWork env φ s s (after s)) :
    (Besu.view f).Follows (ScanWork env) (fun a φ' => ∃ s, a = f s.ledger ∧ φ' = after s) φ := by
  refine Async.follows_query ?_
  rintro s ⟨_ | message, _⟩ hread
  · exact ⟨after s, hafter s, .fulfilled ⟨s, (Prod.mk.inj hread).2.symm, rfl⟩⟩
  · exact ⟨_, .fail hbusy, .rejected _ _⟩

theorem getEvents_follows {besu : BesuConfig} (hbesu : env.besu = some besu)
    (fromBlock latestBlock : ℕ) :
    (getEvents besu fromBlock latestBlock).Follows (ScanWork env)
      (fun events φ => φ = ⟨call, .fetched latestBlock events⟩)
      ⟨call, .seeded latestBlock fromBlock⟩ := by
  unfold getEvents Besu.ensureInitialized
  cases besu.initializationError with
  | some message => exact .rejected _ _
  | none =>
    simp only [Async.pure_eq, Async.fulfilled_bind]
    by_cases haddresses : contractAddresses besu = []
    · have hlogged : ∀ s, loggedEvents env fromBlock latestBlock s = [] := fun s => by
        simp [loggedEvents, hbesu, haddresses]
      rw [if_pos haddresses]
      apply (view_follows _ (fun _ => ⟨call, .fetched latestBlock []⟩) rfl
        fun s => .unaddressed (hlogged s)).bind
      rintro _ φ ⟨s, -, rfl⟩
      exact .fulfilled rfl
    · have hlogged : ∀ s, loggedEvents env fromBlock latestBlock s = s.ledger.events.filter
          fun e => fromBlock ≤ e.blockNumber ∧ e.blockNumber ≤ latestBlock := fun s => by
        simp [loggedEvents, hbesu, haddresses]
      rw [if_neg haddresses]
      apply (view_follows _ (fun _ => ⟨call, .probed latestBlock fromBlock⟩) rfl
        fun _ => .probe).bind
      rintro _ φ ⟨s, -, rfl⟩
      apply (view_follows _ _ rfl fun s => .fetch).weaken
      rintro events φ ⟨s, rfl, rfl⟩
      rw [hlogged s]

theorem read_keys_subset (s : World) :
    ((chainReadModel s).take 5000).filterMap AuditEventRow.eventKey ⊆ storedKeys s :=
  ((List.take_sublist _ _).filterMap _).subset

theorem seedKeys_follows (refuses : World → Bool) (latestBlock fromBlock : ℕ) :
    (tryCatch (do
        rememberKeys (← selectUnless refuses fun w =>
          ((chainReadModel w).take 5000).filterMap AuditEventRow.eventKey))
      fun _ => pure () : Promise Unit).Follows (ScanWork env)
      (fun _ φ => φ = ⟨call, .seeded latestBlock fromBlock⟩)
      ⟨call, .ranged latestBlock fromBlock⟩ := by
  refine Async.Follows.intro fun s => ?_
  cases hs : refuses s with
  | true =>
    refine ⟨_, .unseeded, ?_⟩
    simp only [hs]
    exact .fulfilled rfl
  | false =>
    refine ⟨_, .seed _ (read_keys_subset s), ?_⟩
    simp only [hs]
    exact .intro fun t => ⟨_, .remember, .fulfilled rfl⟩

theorem scanBlocks_follows (hconfigured : env.databaseConfigured = true) {besu : BesuConfig}
    (hbesu : env.besu = some besu) (latestBlock : ℕ) :
    (scanBlocks env besu call.windowBlocks latestBlock).Follows (ScanWork env)
      (fun r φ => ∃ seen, φ = ⟨call, .projecting seen []⟩ ∧ r.latestBlock = seen.latestBlock)
      ⟨call, .scanning latestBlock⟩ := by
  have hread : ∀ {α : Type} (a : α) (refuses : World → Bool) (f : World → α),
      (if !env.databaseConfigured then pure a else selectUnless refuses f : Promise α) =
        selectUnless refuses f := fun a refuses f => by simp [hconfigured]
  simp only [scanBlocks, getMaxIndexedChainBlock, listIndexedChainEventKeys, listIndexedChainTxHashes,
    hread, select, recovered_select]
  refine Async.follows_query fun s block hblock => ⟨_, .range block ?_, ?_⟩
  · rw [← hblock]
    split
    · exact .inl rfl
    · exact .inr rfl
  apply (seedKeys_follows _ _ _).bind
  rintro _ φ rfl
  apply Async.Follows.bind
  · exact (getEvents_follows hbesu _ latestBlock).recover (S := fun _ => True) trivial
      (fun _ _ _ _ _ _ => trivial) fun _ _ _ => .rejected _ _
  rintro events φ rfl
  refine Async.follows_query fun s keys hkeys => ⟨_, .keys keys ?_, ?_⟩
  · rw [← hkeys]
    split
    · exact List.nil_subset _
    · exact read_keys_subset s
  refine Async.follows_query fun s hashes hhashes =>
    ⟨_, .hashes hashes ?_ fun hs => ?_, ?_⟩
  · rw [← hhashes]
    split
    · exact List.nil_subset _
    · exact List.Subset.refl _
  · rw [← hhashes, if_neg (by simp [hs])]
    rfl
  apply (projectEvents_follows hconfigured latestBlock keys hashes events 0 0).bind
  rintro counts φ rfl
  exact .fulfilled ⟨_, rfl, rfl⟩

/-- The scan is about to end with the result `r`. -/
def Ending (call : ScanCall) (r : IndexerResult) (φ : ScanPhase) : Prop :=
  (∃ seen, φ = ⟨call, .projecting seen []⟩ ∧ r.latestBlock = seen.latestBlock) ∨
    φ.call = call ∧ φ.stage.busy = true ∧ r = noScan

theorem runScan_follows (hconfigured : env.databaseConfigured = true) :
    (runScan env call.windowBlocks).Follows (ScanWork env) (Ending call) ⟨call, .begun⟩ := by
  unfold runScan
  cases hbesu : env.besu with
  | none => exact .fulfilled (.inr ⟨rfl, rfl, rfl⟩)
  | some besu =>
    apply (getNetworkStatus_follows besu).bind
    rintro status φ (rfl | ⟨hoff, hcall, hbusy⟩)
    · apply Async.Follows.ite
      · exact fun _ => .fulfilled (.inr ⟨rfl, rfl, rfl⟩)
      · exact fun _ => (scanBlocks_follows hconfigured hbesu _).weaken fun _ _ => .inl
    · rw [hoff]
      exact .fulfilled (.inr ⟨hcall, hbusy, rfl⟩)

/-- The guard is given back in whatever stage the scan has come to. -/
theorem unlock_follows {α : Type} {R : α → ScanPhase → Prop} {k : Bool → Promise α} {φ : ScanPhase}
    (hcall : φ.call = call) (hbusy : φ.stage.busy = true)
    (hk : ∀ busy, (k busy).Follows (ScanStep env) R ⟨call, .over⟩) :
    (setIndexing false >>= k).Follows (ScanStep env) R φ := by
  obtain ⟨call', stage⟩ := φ
  obtain rfl : call' = call := hcall
  exact Async.follows_answer fun s busy _ => ⟨_, .abort hbusy, hk busy⟩

theorem indexRecentEvents_follows (hconfigured : env.databaseConfigured = true) :
    (indexRecentEvents env call.windowBlocks).Follows (ScanStep env) Reported (entryPhase call) := by
  have hscan : (tryCatch (runScan env call.windowBlocks) fun error => do
      let _ ← setIndexing false
      throw error : Promise IndexerResult).Follows (ScanStep env) (Ending call) ⟨call, .begun⟩ := by
    apply (runScan_follows hconfigured).recover_mono (fun _ _ _ _ => .work)
      (S := fun φ => φ.call = call ∧ φ.stage.busy = true) ⟨rfl, rfl⟩
    · rintro φ s t φ' ⟨hcall, -⟩ hstep
      exact ⟨hstep.busy.2.2.trans hcall, hstep.busy.2.1⟩
    · rintro error φ ⟨hcall, hbusy⟩
      exact unlock_follows hcall hbusy fun _ => .rejected _ _
  refine Async.follows_answer fun s busy hs => ?_
  cases busy with
  | true =>
    have hsame : { s with indexing := true } = s := by rw [← show s.indexing = true from hs]
    exact ⟨⟨call, .over⟩, (congrArg (ScanStep env _ s · _) hsame).mpr (.refuse hs),
      .fulfilled fun h => absurd h (Nat.lt_irrefl 0)⟩
  | false =>
    refine ⟨⟨call, .begun⟩, .begin hs, hscan.bind ?_⟩
    rintro r φ (⟨seen, rfl, hr⟩ | ⟨hcall, hbusy, rfl⟩)
    · refine Async.follows_answer fun s _ _ => ⟨_, .release, .fulfilled fun _ => ?_⟩
      rw [hr]
    · exact unlock_follows hcall hbusy fun _ => .fulfilled fun h => absurd h (Nat.lt_irrefl 0)

end

end Sampraan.Blockchain
