import Sampraan.Blockchain.ScanGuard

/-! No two rows of the chain read model carry the same event key. -/

namespace Sampraan.Blockchain

open Backend Library

/-- What a transaction hash is for sure: a text, and one without the separator of the event keys. -/
def IsHash (text : String) : Prop := text ≠ "" ∧ ':' ∉ text.toList

instance (text : String) : Decidable (IsHash text) := inferInstanceAs (Decidable (_ ∧ _))

def Hashed (ledger : Ledger) : Prop := ∀ e ∈ ledger.events, IsHash e.transactionHash

/-- The part of an event key that is the transaction hash. -/
def keyHash (key : String) : String := String.ofList (key.toList.takeWhile (· ≠ ':'))

theorem keyHash_eventKey {event : ChainEvent} (h : IsHash event.transactionHash) :
    keyHash (eventKey event) = event.transactionHash := by
  have hall : ∀ c ∈ event.transactionHash.toList, decide (c ≠ ':') = true := by
    intro c hc
    exact decide_eq_true fun heq => h.2 (heq ▸ hc)
  have hkey : (eventKey event).toList =
      event.transactionHash.toList ++ ':' :: (event.name.toList ++
        (":" ++ event.tokenId.getD (event.wallet.getD "")).toList) := by
    simp [eventKey, toString]
  rw [keyHash, hkey, List.takeWhile_append_of_pos hall, List.takeWhile_cons_of_neg (by simp),
    List.append_nil, String.ofList_toList]

/-- The dedup reads of a scan succeed. -/
def ReadsSucceed (_ : ScanCall) (_ : List (World × World)) (w : World) : Prop :=
  w.dedupReadsFail = false

instance (call : ScanCall) (h : List (World × World)) (w : World) :
    Decidable (ReadsSucceed call h w) :=
  inferInstanceAs (Decidable (_ = _))

/-- No key twice, and each row with a key has the transaction hash that the key begins with. -/
structure KeyedRows (w : World) : Prop where
  hashed : Hashed w.ledger
  hash : ∀ row ∈ chainReadModel w, ∀ key ∈ row.eventKey,
    keyHash key ≠ "" ∧ row.transactionHash = some (keyHash key)
  nodup : (storedKeys w).Nodup

/-- Each key in the table is one that the scan will pass over, or `extra`. -/
def Suppressed (seen : Seen) (extra : List String) (w : World) : Prop :=
  ∀ key ∈ storedKeys w, keyHash key ∈ seen.legacyTxHashes ∨ key ∈ w.indexedEventKeys ∨ key ∈ extra

def AllHashed (events : List ChainEvent) : Prop := ∀ e ∈ events, IsHash e.transactionHash

/-- What a scan relies on in its stage. -/
def DedupFacts (w : World) : ScanStage → Prop
  | .fetched _ events => AllHashed events
  | .keyed _ events _ => AllHashed events
  | .projecting seen events => AllHashed events ∧ Suppressed seen [] w
  | .checked seen event row events => AllHashed (event :: events) ∧ Suppressed seen [] w ∧
      project event = some row ∧ eventKey event ∉ w.indexedEventKeys ∧
        event.transactionHash ∉ seen.legacyTxHashes
  | .stored seen event events => AllHashed events ∧ Suppressed seen [eventKey event] w
  | _ => True

section

variable {env : Environment} {chain : Ledger → Ledger → Prop} {s t : World} {event : ChainEvent}
  {row : AuditEventRow}

theorem project_source (h : project event = some row) : row.source = .chainReadModel := by
  obtain ⟨action, -, rfl⟩ := Option.map_eq_some_iff.mp h
  rfl

theorem project_eventKey (h : project event = some row) : row.eventKey = some (eventKey event) := by
  obtain ⟨action, -, rfl⟩ := Option.map_eq_some_iff.mp h
  rfl

theorem project_transactionHash (h : project event = some row) :
    row.transactionHash = some event.transactionHash := by
  obtain ⟨action, -, rfl⟩ := Option.map_eq_some_iff.mp h
  rfl

theorem chainReadModel_store (h : project event = some row) :
    chainReadModel { s with auditEvents := s.auditEvents ++ [row] } = chainReadModel s ++ [row] := by
  simp [chainReadModel, project_source h]

theorem storedKeys_store (h : project event = some row) :
    storedKeys { s with auditEvents := s.auditEvents ++ [row] } =
      storedKeys s ++ [eventKey event] := by
  simp [storedKeys, chainReadModel_store h, project_eventKey h]

theorem KeyedRows.hash_mem (h : KeyedRows s) {key : String} (hkey : key ∈ storedKeys s) :
    keyHash key ∈ storedHashes s := by
  obtain ⟨row, hrow, heq⟩ := List.mem_filterMap.mp hkey
  obtain ⟨hne, hhash⟩ := h.hash row hrow key heq
  exact List.mem_filter.mpr ⟨List.mem_filterMap.mpr ⟨row, hrow, hhash⟩, by simpa using hne⟩

theorem KeyedRows.store (h : KeyedRows s) (hrow : project event = some row)
    (hhash : IsHash event.transactionHash) (hnew : eventKey event ∉ storedKeys s) :
    KeyedRows { s with auditEvents := s.auditEvents ++ [row] } := by
  constructor
  · exact h.hashed
  · intro row' hrow' key hkey
    rw [chainReadModel_store hrow] at hrow'
    rcases List.mem_append.mp hrow' with hold | hlast
    · exact h.hash row' hold key hkey
    · obtain rfl := List.mem_singleton.mp hlast
      rw [project_eventKey hrow] at hkey
      obtain rfl : eventKey event = key := Option.some.inj hkey
      rw [keyHash_eventKey hhash]
      exact ⟨hhash.1, project_transactionHash hrow⟩
  · rw [storedKeys_store hrow]
    exact h.nodup.append (List.nodup_singleton _) (by simpa using hnew)

theorem KeyedRows.of_eq (h : KeyedRows s) (hrows : chainReadModel t = chainReadModel s)
    (hledger : t.ledger = s.ledger) : KeyedRows t := by
  constructor
  · rw [hledger]
    exact h.hashed
  · rw [hrows]
    exact h.hash
  · rw [storedKeys, hrows]
    exact h.nodup

/-- A key that a scan has checked is not in the table. -/
theorem notMem_storedKeys {seen : Seen} (h : Suppressed seen [] s)
    (hhash : IsHash event.transactionHash) (hmemory : eventKey event ∉ s.indexedEventKeys)
    (hlegacy : event.transactionHash ∉ seen.legacyTxHashes) : eventKey event ∉ storedKeys s := by
  intro hkey
  rcases h _ hkey with hold | hold | hold
  · rw [keyHash_eventKey hhash] at hold
    exact hlegacy hold
  · exact hmemory hold
  · cases hold

theorem Suppressed.of_eq {seen : Seen} {extra : List String} (h : Suppressed seen extra s)
    (hrows : chainReadModel t = chainReadModel s) (hmemory : t.indexedEventKeys = s.indexedEventKeys) :
    Suppressed seen extra t := by
  intro key hkey
  rw [storedKeys, hrows] at hkey
  rw [hmemory]
  exact h key hkey

theorem dedupFacts_of_outside (hout : Outside chain s t) {stage : ScanStage}
    (h : DedupFacts s stage) : DedupFacts t stage := by
  cases stage with
  | projecting seen events => exact ⟨h.1, h.2.of_eq hout.rows hout.indexedEventKeys⟩
  | checked seen event row events =>
    obtain ⟨hhashed, hsuppressed, hrow, hmemory, hlegacy⟩ := h
    refine ⟨hhashed, hsuppressed.of_eq hout.rows hout.indexedEventKeys, hrow, ?_, hlegacy⟩
    rwa [hout.indexedEventKeys]
  | stored seen event events => exact ⟨h.1, h.2.of_eq hout.rows hout.indexedEventKeys⟩
  | _ => exact h

theorem dedup_work {φ φ' : ScanPhase} (hreads : s.dedupReadsFail = false) (hrows : KeyedRows s)
    (hfacts : DedupFacts s φ.stage) (hwork : ScanWork env φ s t φ') :
    KeyedRows t ∧ DedupFacts t φ'.stage := by
  cases hwork with
  | fail hbusy => exact ⟨hrows, trivial⟩
  | head => exact ⟨hrows, trivial⟩
  | range block hblock => exact ⟨hrows, trivial⟩
  | seed keys hkeys => exact ⟨hrows, trivial⟩
  | unseeded => exact ⟨hrows, trivial⟩
  | remember => exact ⟨hrows.of_eq rfl rfl, trivial⟩
  | probe => exact ⟨hrows, trivial⟩
  | unaddressed hnone => exact ⟨hrows, fun e he => absurd he List.not_mem_nil⟩
  | @fetch call latestBlock fromBlock =>
    refine ⟨hrows, fun e he => hrows.hashed e ?_⟩
    unfold loggedEvents at he
    split at he
    · exact List.mem_of_mem_filter he
    · cases he
  | keys keys hkeys => exact ⟨hrows, hfacts⟩
  | hashes hashes hhashes hall =>
    refine ⟨hrows, hfacts, fun key hkey => .inl ?_⟩
    rw [hall hreads]
    exact hrows.hash_mem hkey
  | pass hpass => exact ⟨hrows, fun e he => hfacts.1 e (List.mem_cons_of_mem _ he), hfacts.2⟩
  | check hpass hrow =>
    obtain ⟨hhashed, hsuppressed⟩ := hfacts
    exact ⟨hrows, hhashed, hsuppressed, hrow, fun h => hpass (.inl h),
      fun h => hpass (.inr (.inr (.inr h)))⟩
  | @store call seen event row events =>
    obtain ⟨hhashed, hsuppressed, hrow, hmemory, hlegacy⟩ := hfacts
    have hhash := hhashed event List.mem_cons_self
    refine ⟨hrows.store hrow hhash (notMem_storedKeys hsuppressed hhash hmemory hlegacy),
      fun e he => hhashed e (List.mem_cons_of_mem _ he), fun key hkey => ?_⟩
    rw [storedKeys_store hrow] at hkey
    rcases List.mem_append.mp hkey with hold | hlast
    · rcases hsuppressed key hold with h | h | h
      · exact .inl h
      · exact .inr (.inl h)
      · cases h
    · exact .inr (.inr hlast)
  | confirm => exact ⟨hrows, hfacts⟩
  | @note call seen event events =>
    obtain ⟨hhashed, hsuppressed⟩ := hfacts
    refine ⟨hrows.of_eq rfl rfl, hhashed, fun key hkey => ?_⟩
    rcases hsuppressed key hkey with h | h | h
    · exact .inl h
    · exact .inr (.inl (List.mem_append_left _ h))
    · exact .inr (.inl (List.mem_append_right _ h))

theorem dedup_invariant (hchain : ∀ l l', chain l l' → Hashed l → Hashed l') :
    ScanInvariant env chain (fun _ => True) ReadsSucceed (fun _ _ _ => True) KeyedRows DedupFacts
      fun _ _ => True where
  enter _ := trivial
  link _ _ _ _ _ _ _ := trivial
  begin _ _ := trivial
  work _ φ s t φ' hreads _ hrows hfacts hwork := by
    obtain ⟨hrows, hfacts⟩ := dedup_work hreads hrows hfacts hwork
    exact ⟨hrows, hfacts, fun _ _ => trivial⟩
  settle _ _ _ _ := trivial
  guard s indexing := ⟨fun h => h.of_eq rfl rfl, fun _ _ => trivial⟩
  outside s t hout h := by
    refine ⟨⟨hchain _ _ hout.ledger h.hashed, ?_, ?_⟩, fun _ => dedupFacts_of_outside hout,
      fun _ _ => trivial⟩
    · rw [hout.rows]
      exact h.hash
    · rw [storedKeys, hout.rows]
      exact h.nodup
  restart s _ h := ⟨h.of_eq rfl rfl, fun _ _ => trivial⟩

/-- Without a database a scan stores nothing. -/
theorem unconfigured_discipline (hconfigured : env.databaseConfigured = false) :
    (indexerSystem env chain fun _ => True).Discipline (fun w => (storedKeys w).Nodup)
      (fun s t => chainReadModel t = chainReadModel s) where
  body call := by
    apply indexRecentEvents_obeys
    constructor
    · exact fun _ => rfl
    · exact fun _ _ _ => rfl
    · exact fun h => absurd (h.symm.trans hconfigured) (by decide)
  interfere s t _ hst := by
    rcases hst with hout | ⟨-, rfl⟩
    · exact hout.rows
    · rfl
  keep s t h hst := by
    rw [storedKeys, hst]
    exact h

end

/-! ### The table as a whole -/

theorem storedKeys_nodup {env : Environment} {chain : Ledger → Ledger → Prop} {w₀ : World}
    {c : Config ScanCall World Error IndexerResult}
    (hchain : ∀ l l', chain l l' → Hashed l → Hashed l') (h₀ : KeyedRows w₀)
    (hc : (indexerSystem env chain fun _ => True).Reach (System.Admits (ByLiving ReadsSucceed)) w₀ c) :
    (storedKeys c.shared).Nodup := by
  cases hconfigured : env.databaseConfigured with
  | true => exact ((dedup_invariant hchain).reach hconfigured h₀ hc).1.nodup
  | false => exact (unconfigured_discipline hconfigured).shared_inv h₀.nodup hc

def mintEvent (transactionHash tokenId : String) (blockNumber : ℕ) : ChainEvent where
  name := "NFTMinted"
  blockNumber := blockNumber
  transactionHash := transactionHash
  assetIdDigest := none
  didDigest := none
  tokenId := some tokenId
  wallet := none

/-- Two tokens have been minted by one transaction and a third one by another. -/
def mintedWorld : World :=
  { sampleWorld with
    ledger :=
      { events := [mintEvent "0x01" "1" 5, mintEvent "0x01" "2" 5, mintEvent "0x02" "3" 6]
        latestBlock := 6 } }

/-- The first process crashes right after its first insert, the second one scans to the end. -/
def crashMoves : List (Move ScanCall World) :=
  (.start 0 ⟨0, 500⟩ :: List.replicate 11 (.run 0)) ++
    .interfere restart :: (.start 1 ⟨1, 500⟩ :: List.replicate 16 (.run 1))

/-- The chain stands still meanwhile. -/
def stillSystem : System ScanCall World Error IndexerResult :=
  indexerSystem sampleEnvironment (fun l l' => l' = l) fun _ => True

def crashRun : Option (Config ScanCall World Error IndexerResult) :=
  stillSystem.exec (System.Admits (ByLiving ReadsSucceed)) (Config.initial mintedWorld) crashMoves

theorem storedKeys_nodup_sample : ∃ c ∈ crashRun, storedKeys c.shared =
    ["0x01:NFTMinted:1", "0x02:NFTMinted:3"] ∧ (storedKeys c.shared).Nodup := by
  have hrun : crashRun.isSome := by rfl
  have hkeys : storedKeys (crashRun.get hrun).shared =
      ["0x01:NFTMinted:1", "0x02:NFTMinted:3"] := by rfl
  have hrestart : ∀ s, stillSystem.interfere s (restart s) := fun _ => .inr ⟨trivial, rfl⟩
  have hc := System.exec_reach (System.harmless_of_interfere hrestart rfl rfl)
    (Option.some_get hrun).symm
  refine ⟨_, Option.get_mem hrun, hkeys, storedKeys_nodup ?_ ?_ hc⟩
  · rintro l l' rfl h
    exact h
  · constructor
    · unfold Hashed
      decide
    · exact fun row hrow => absurd hrow List.not_mem_nil
    · exact List.nodup_nil

end Sampraan.Blockchain
