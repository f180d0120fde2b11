import Sampraan.Contracts.CustodyEvents
import Sampraan.Library.Decimal

/-! `getTransferHistory` of `graph.service.ts`, and when it is the history that the asset registry
keeps. -/

namespace Sampraan.Graph

open Library Contracts

/-! ### Events of the node -/

inductive ArgValue where
  | uint (n : ℕ)
  | address (a : Address)
  | bytes32 (digest : Bytes32)
  | text (s : String)

/-- An event that the node reports, decoded by the ABI of the registry. -/
structure EventLog where
  eventName : String
  args : List (String × ArgValue)
  blockNumber : ℕ
  transactionHash : String

/-- The provider and the contract over it. A request that fails answers `none`, and so does
`queryFilter` for what is no `uint256`; `getBlock` gives the time of the block, if it is found. -/
structure GraphProvider where
  getBlockNumber : Option ℕ
  queryFilter : String → ℤ → ℕ → ℕ → Option (List EventLog)
  getBlock : ℕ → Option (Option ℕ)
  addressText : Address → String
  bytes32Text : Bytes32 → String

def EventLog.arg (log : EventLog) (name : String) : Option ArgValue :=
  (log.args.find? fun arg => arg.1 == name).map Prod.snd

/-- `String(value)`, where a missing argument is undefined. -/
def argText (provider : GraphProvider) : Option ArgValue → String
  | some (.uint n) => toString n
  | some (.address a) => provider.addressText a
  | some (.bytes32 digest) => provider.bytes32Text digest
  | some (.text s) => s
  | none => "undefined"

/-! ### The service -/

inductive TransferKind where
  | assignment
  | transfer
  deriving DecidableEq

structure GraphTransfer where
  tokenId : String
  fromCustodian : String
  toCustodian : String
  operator : String
  transactionHash : String
  blockNumber : ℕ
  timestamp : ℕ
  kind : TransferKind
  deriving DecidableEq

def defaultWindow : ℕ := 5000

def graphTransfer (provider : GraphProvider) (log : EventLog) : Option GraphTransfer := do
  let block ← provider.getBlock log.blockNumber
  some
    { tokenId := argText provider (log.arg "tokenId")
      fromCustodian := if (log.arg "fromCustodian").isNone then ""
        else argText provider (log.arg "fromCustodian")
      toCustodian := argText provider (log.arg "toCustodian")
      operator := argText provider (log.arg "operator")
      transactionHash := log.transactionHash
      blockNumber := log.blockNumber
      timestamp := block.getD 0
      kind := if log.eventName = "AssetAssigned" then .assignment else .transfer }

/-- The body of the `try`, which fails with any of its requests. -/
def queryTransfers (provider : GraphProvider) (tokenId : String) : Option (List GraphTransfer) := do
  let latest ← provider.getBlockNumber
  let fromBlock := latest - defaultWindow
  let token ← Decimal.bigInt? tokenId
  let assigned ← provider.queryFilter "AssetAssigned" token fromBlock latest
  let transferred ← provider.queryFilter "AssetTransferred" token fromBlock latest
  let entries ← (assigned ++ transferred).mapM (graphTransfer provider)
  some (entries.mergeSort fun a b => a.blockNumber ≤ b.blockNumber)

/-- `contracts` is missing when `ensureContracts` finds no deployment. -/
def getTransferHistory (contracts : Option GraphProvider) (tokenId : String) : List GraphTransfer :=
  match contracts with
  | none => []
  | some provider => (queryTransfers provider tokenId).getD []

/-! ### The chain behind the node -/

/-- A committed call in its block; calls of one transaction share its hash. -/
structure Mined where
  blockNumber : ℕ
  transactionHash : String
  call : Chain.Committed

def eventLog (blockNumber : ℕ) (transactionHash : String) (event : CustodyEvent) : EventLog where
  eventName :=
    match event with
    | .assetAssigned .. => "AssetAssigned"
    | .assetTransferred .. => "AssetTransferred"
    | .forcedTransfer .. => "ForcedTransfer"
  args :=
    match event with
    | .assetAssigned tokenId assetIdDigest custodian operator assignedAt =>
      [("tokenId", .uint tokenId), ("assetIdDigest", .bytes32 assetIdDigest),
        ("custodian", .address custodian), ("operator", .address operator), ("assignedAt", .uint assignedAt)]
    | .assetTransferred tokenId assetIdDigest fromCustodian toCustodian operator transferredAt =>
      [("tokenId", .uint tokenId), ("assetIdDigest", .bytes32 assetIdDigest),
        ("fromCustodian", .address fromCustodian), ("toCustodian", .address toCustodian),
        ("operator", .address operator), ("transferredAt", .uint transferredAt)]
    | .forcedTransfer tokenId fromCustodian toCustodian actor reason atTime =>
      [("tokenId", .uint tokenId), ("fromCustodian", .address fromCustodian),
        ("toCustodian", .address toCustodian), ("actor", .address actor), ("reason", .text reason),
        ("at", .uint atTime)]
  blockNumber := blockNumber
  transactionHash := transactionHash

def eventToken : CustodyEvent → ℕ
  | .assetAssigned tokenId .. => tokenId
  | .assetTransferred tokenId .. => tokenId
  | .forcedTransfer tokenId .. => tokenId

/-- What the filter by name, token and blocks lets through. -/
def Mined.matches? (name : String) (n fromBlock toBlock : ℕ) (m : Mined) : Option EventLog :=
  match Chain.custodyEvent m.call with
  | none => none
  | some event =>
    let log := eventLog m.blockNumber m.transactionHash event
    if log.eventName = name ∧ eventToken event = n ∧ fromBlock ≤ log.blockNumber ∧
      log.blockNumber ≤ toBlock then some log else none

/-- The node answers from a chain of that history, whose blocks go up to `latest`. -/
structure Serves (provider : GraphProvider) (history : List Mined) (latest : ℕ) : Prop where
  number : provider.getBlockNumber = some latest
  logs : ∀ name ∈ ["AssetAssigned", "AssetTransferred"], ∀ n : ℕ, n < 2 ^ 256 → ∀ fromBlock toBlock,
    provider.queryFilter name n fromBlock toBlock =
      some (history.filterMap (Mined.matches? name n fromBlock toBlock))
  blocks : ∀ blockNumber, ∃ block, provider.getBlock blockNumber = some block
  address_ne : ∀ a, provider.addressText a ≠ ""

/-! ### The entries -/

section

variable {provider : GraphProvider} {log : EventLog} {entry : GraphTransfer} {m : Mined}
  {n fromBlock toBlock : ℕ} {name : String}

def shape (entry : GraphTransfer) : String × String × String :=
  (entry.fromCustodian, entry.toCustodian, entry.operator)

def recordShape (provider : GraphProvider) (record : CustodyRecord) : String × String × String :=
  (provider.addressText record.fromCustodian, provider.addressText record.toCustodian,
    provider.addressText record.operator)

theorem graphTransfer_eq_some (h : graphTransfer provider log = some entry) :
    entry.blockNumber = log.blockNumber ∧
      entry.fromCustodian = (if (log.arg "fromCustodian").isNone then ""
        else argText provider (log.arg "fromCustodian")) ∧
      entry.toCustodian = argText provider (log.arg "toCustodian") ∧
      entry.operator = argText provider (log.arg "operator") := by
  rw [graphTransfer, Option.bind_eq_bind, Option.bind_eq_some_iff] at h
  obtain ⟨block, -, h⟩ := h
  cases h
  exact ⟨rfl, rfl, rfl, rfl⟩

theorem matches?_eq_some :
    m.matches? name n fromBlock toBlock = some log ↔
      ∃ event, Chain.custodyEvent m.call = some event ∧
        log = eventLog m.blockNumber m.transactionHash event ∧ log.eventName = name ∧
          eventToken event = n ∧ fromBlock ≤ m.blockNumber ∧ m.blockNumber ≤ toBlock := by
  rw [Mined.matches?]
  cases hevent : Chain.custodyEvent m.call with
  | none => simp
  | some event =>
    simp only [Option.ite_none_right_eq_some, Option.some.injEq]
    constructor
    · rintro ⟨⟨hname, htoken, hblock⟩, rfl⟩
      exact ⟨event, rfl, rfl, hname, htoken, hblock⟩
    · rintro ⟨event', rfl, rfl, hname, htoken, hblock⟩
      exact ⟨⟨hname, htoken, hblock⟩, rfl⟩

/-- What the service answers, when the node does: the entries of the assignments and of the transfers,
by block. -/
theorem getTransferHistory_eq {history : List Mined} {latest : ℕ} {tokenId : String}
    (hserves : Serves provider history latest) (htoken : Decimal.bigInt? tokenId = some (n : ℤ))
    (hn : n < 2 ^ 256) : ∃ entryOf : EventLog → GraphTransfer,
      (∀ log, graphTransfer provider log = some (entryOf log)) ∧
      getTransferHistory (some provider) tokenId =
        ((history.filterMap (Mined.matches? "AssetAssigned" n (latest - defaultWindow) latest) ++
            history.filterMap (Mined.matches? "AssetTransferred" n (latest - defaultWindow) latest)).map
          entryOf).mergeSort fun a b => a.blockNumber ≤ b.blockNumber := by
  have hanswers : ∀ log, ∃ entry, graphTransfer provider log = some entry := by
    intro log
    obtain ⟨block, hblock⟩ := hserves.blocks log.blockNumber
    rw [graphTransfer, hblock]
    exact ⟨_, rfl⟩
  choose entryOf hentryOf using hanswers
  have hmap (logs : List EventLog) : logs.mapM (graphTransfer provider) = some (logs.map entryOf) := by
    induction logs with
    | nil => rfl
    | cons log logs ih =>
      rw [List.mapM_cons, hentryOf, ih]
      rfl
  refine ⟨entryOf, hentryOf, ?_⟩
  have hassigned := hserves.logs "AssetAssigned" (by simp) n hn (latest - defaultWindow) latest
  have htransferred := hserves.logs "AssetTransferred" (by simp) n hn (latest - defaultWindow) latest
  simp only [getTransferHistory, queryTransfers, hserves.number, htoken, hassigned, htransferred,
    hmap, Option.bind_eq_bind, Option.bind_some, Option.getD_some]

end

/-! ### Histories -/

/-- A history of the contracts, in the order of the chain. -/
structure IsHistory (governance : Address) (accessControl : SampraanAccessControl) (history : List Mined)
    (s : Chain) : Prop where
  run : (Chain.machine governance).Run (fun _ _ => True) (Chain.deploy accessControl)
    (history.map Mined.call) s
  ordered : history.Pairwise fun m m' => m.blockNumber ≤ m'.blockNumber

/-- The custody events of the token lie inside the window that the service scans. -/
def InWindow (n : ℕ) (history : List Mined) (latest : ℕ) : Prop :=
  ∀ m ∈ history, ∀ event, Chain.custodyEvent m.call = some event → eventToken event = n →
    latest - defaultWindow ≤ m.blockNumber ∧ m.blockNumber ≤ latest

/-- The records behind the mint's, in their order. -/
def HistoryMatches (provider : GraphProvider) (tokenId : String) (records : List CustodyRecord) : Prop :=
  (getTransferHistory (some provider) tokenId).map shape = records.tail.map (recordShape provider)

def assignsAsset (n : ℕ) (call : SampraanAssetRegistry.Call) : Prop :=
  ∃ custodian, call = .assignAsset n custodian

/-- Custody of the token was moved by `transferCustody` only. -/
def OnlyTransfers (n : ℕ) (history : List Mined) : Prop :=
  ∀ m ∈ history, ∀ call, m.call.1.2 = .assetRegistry call →
    ¬ assignsAsset n call ∧ ¬ SampraanAssetRegistry.forcesTransfer n call

section

variable {provider : GraphProvider} {m : Mined} {n latest : ℕ} {history : List Mined}
  {tokenId : String}

theorem moveOf_isSome : (Chain.moveOf n m.call).isSome = true ↔
    ∃ event, Chain.custodyEvent m.call = some event ∧ eventToken event = n := by
  obtain ⟨blockNumber, transactionHash, ⟨⟨msg, call⟩, t, t'⟩⟩ := m
  cases call with
  | accessControl call => simp [Chain.moveOf, Chain.custodyEvent]
  | identityRegistry call => simp [Chain.moveOf, Chain.custodyEvent]
  | assetRegistry call =>
    simp only [Chain.moveOf, Chain.custodyEvent]
    cases call with
    | assignAsset tokenId custodian => simp [SampraanAssetRegistry.Call.moveOf,
        SampraanAssetRegistry.Call.custodyEvent, eventToken]
    | transferCustody tokenId toCustodian => simp [SampraanAssetRegistry.Call.moveOf,
        SampraanAssetRegistry.Call.custodyEvent, eventToken]
    | governanceForceTransfer tokenId toCustodian reason => simp [SampraanAssetRegistry.Call.moveOf,
        SampraanAssetRegistry.Call.custodyEvent, eventToken]
    | _ => simp [SampraanAssetRegistry.Call.moveOf, SampraanAssetRegistry.Call.custodyEvent]

/-- The entry of a transfer shows its record. -/
theorem shape_of_transfer {log : EventLog} {entry : GraphTransfer} {fromBlock toBlock : ℕ}
    (hlog : m.matches? "AssetTransferred" n fromBlock toBlock = some log)
    (hentry : graphTransfer provider log = some entry) :
    (Chain.moveOf n m.call).map (recordShape provider) = some (shape entry) := by
  obtain ⟨event, hevent, hspelt, hname, htoken, -⟩ := matches?_eq_some.mp hlog
  obtain ⟨-, hfrom, hto, hoperator⟩ := graphTransfer_eq_some hentry
  obtain ⟨blockNumber, transactionHash, ⟨⟨msg, call⟩, t, t'⟩⟩ := m
  cases event with
  | assetAssigned tokenId assetIdDigest custodian operator assignedAt =>
    rw [hspelt] at hname
    simp [eventLog] at hname
  | forcedTransfer tokenId fromCustodian toCustodian actor reason atTime =>
    rw [hspelt] at hname
    simp [eventLog] at hname
  | assetTransferred tokenId assetIdDigest fromCustodian toCustodian operator transferredAt =>
    cases call with
    | accessControl call => cases hevent
    | identityRegistry call => cases hevent
    | assetRegistry call =>
      cases call with
      | transferCustody tokenId' toCustodian' =>
        simp only [Chain.custodyEvent, SampraanAssetRegistry.Call.custodyEvent, Option.some.injEq,
          CustodyEvent.assetTransferred.injEq] at hevent
        obtain ⟨rfl, -, rfl, rfl, rfl, -⟩ := hevent
        have htoken' : tokenId' = n := htoken
        rw [shape, hfrom, hto, hoperator, hspelt]
        simp [Chain.moveOf, SampraanAssetRegistry.Call.moveOf, htoken', recordShape,
          SampraanAssetRegistry.moveRecord, EventLog.arg, eventLog, argText]
      | _ => cases hevent

theorem forall_of_countP_eq {α : Type} {p q : α → Bool} {l : List α}
    (himp : ∀ x ∈ l, p x = true → q x = true) (h : l.countP p = l.countP q) :
    ∀ x ∈ l, q x = true → p x = true := by
  induction l with
  | nil => simp
  | cons x l ih =>
    rw [List.forall_mem_cons] at himp ⊢
    have hle := List.countP_mono_left himp.2
    rw [List.countP_cons, List.countP_cons] at h
    cases hp : p x with
    | true =>
      rw [hp, himp.1 hp, Nat.add_right_cancel_iff] at h
      exact ⟨fun _ => rfl, ih himp.2 h⟩
    | false =>
      cases hq : q x with
      | true =>
        rw [hp, hq] at h
        simp at h
        omega
      | false =>
        rw [hp, hq] at h
        exact ⟨nofun, ih himp.2 h⟩

variable {governance : Address} {accessControl : SampraanAccessControl} {s : Chain}

theorem IsHistory.records (h : IsHistory governance accessControl history s) (n : ℕ) :
    (s.assetRegistry.custodyHistory n).tail = history.filterMap fun m => Chain.moveOf n m.call := by
  rw [Chain.custodyHistory_tail h.run, List.filterMap_map]
  rfl

theorem matches?_blockNumber {name : String} {fromBlock toBlock : ℕ} {log : EventLog}
    (h : m.matches? name n fromBlock toBlock = some log) : log.blockNumber = m.blockNumber := by
  obtain ⟨event, -, rfl, -⟩ := matches?_eq_some.mp h
  rfl

/-- The event of a move of the token is found under its name. -/
theorem exists_match (hwindow : InWindow n history latest) (hm : m ∈ history) {event : CustodyEvent}
    (hevent : Chain.custodyEvent m.call = some event) (htoken : eventToken event = n) :
    m.matches? (eventLog m.blockNumber m.transactionHash event).eventName n (latest - defaultWindow)
      latest = some (eventLog m.blockNumber m.transactionHash event) :=
  matches?_eq_some.mpr ⟨event, hevent, rfl, rfl, htoken, hwindow m hm event hevent htoken⟩

theorem isSome_transferred (hwindow : InWindow n history latest) (h : OnlyTransfers n history)
    (hm : m ∈ history) (hmove : (Chain.moveOf n m.call).isSome = true) :
    (m.matches? "AssetTransferred" n (latest - defaultWindow) latest).isSome = true := by
  obtain ⟨event, hevent, htoken⟩ := moveOf_isSome.mp hmove
  have hmatch := exists_match hwindow hm hevent htoken
  have hkind := h m hm
  obtain ⟨blockNumber, transactionHash, ⟨⟨msg, call⟩, t, t'⟩⟩ := m
  cases call with
  | accessControl call => cases hevent
  | identityRegistry call => cases hevent
  | assetRegistry call =>
    obtain ⟨hassigns, hforces⟩ := hkind call rfl
    cases call with
    | assignAsset tokenId custodian =>
      cases hevent
      exact absurd ⟨custodian, htoken ▸ rfl⟩ hassigns
    | governanceForceTransfer tokenId toCustodian reason =>
      cases hevent
      exact absurd ⟨toCustodian, reason, htoken ▸ rfl⟩ hforces
    | transferCustody tokenId toCustodian =>
      cases hevent
      rw [Option.isSome_iff_exists]
      exact ⟨_, hmatch⟩
    | _ => cases hevent

theorem no_assigned (h : OnlyTransfers n history) (fromBlock toBlock : ℕ) :
    history.filterMap (Mined.matches? "AssetAssigned" n fromBlock toBlock) = [] := by
  rw [List.filterMap_eq_nil_iff]
  intro m hm
  rw [Option.eq_none_iff_forall_ne_some]
  intro log hlog
  obtain ⟨event, hevent, hspelt, hname, htoken, -⟩ := matches?_eq_some.mp hlog
  have hkind := h m hm
  rw [hspelt] at hname
  obtain ⟨blockNumber, transactionHash, ⟨⟨msg, call⟩, t, t'⟩⟩ := m
  cases call with
  | accessControl call => cases hevent
  | identityRegistry call => cases hevent
  | assetRegistry call =>
    cases call with
    | assignAsset tokenId custodian =>
      cases hevent
      exact (hkind _ rfl).1 ⟨custodian, htoken ▸ rfl⟩
    | governanceForceTransfer tokenId toCustodian reason =>
      cases hevent
      simp [eventLog] at hname
    | transferCustody tokenId toCustodian =>
      cases hevent
      simp [eventLog] at hname
    | _ => cases hevent

theorem matches_of_onlyTransfers (hhistory : IsHistory governance accessControl history s)
    (hserves : Serves provider history latest) (htoken : Decimal.bigInt? tokenId = some (n : ℤ))
    (hn : n < 2 ^ 256) (hwindow : InWindow n history latest) (h : OnlyTransfers n history) :
    HistoryMatches provider tokenId (s.assetRegistry.custodyHistory n) := by
  obtain ⟨entryOf, hentryOf, hresult⟩ := getTransferHistory_eq hserves htoken hn
  rw [no_assigned h, List.nil_append] at hresult
  have hsorted : ((history.filterMap
      (Mined.matches? "AssetTransferred" n (latest - defaultWindow) latest)).map entryOf).Pairwise
        fun a b => decide (a.blockNumber ≤ b.blockNumber) = true := by
    rw [List.pairwise_map]
    refine hhistory.ordered.filterMap _ fun m m' hle log hlog log' hlog' => ?_
    rw [decide_eq_true_iff, (graphTransfer_eq_some (hentryOf log)).1,
      (graphTransfer_eq_some (hentryOf log')).1, matches?_blockNumber hlog, matches?_blockNumber hlog']
    exact hle
  rw [HistoryMatches, hresult, List.mergeSort_of_pairwise hsorted, hhistory.records, List.map_map,
    List.map_filterMap, List.map_filterMap]
  refine List.filterMap_congr fun m hm => ?_
  cases hlog : m.matches? "AssetTransferred" n (latest - defaultWindow) latest with
  | some log => exact (shape_of_transfer hlog (hentryOf log)).symm
  | none =>
    cases hmove : Chain.moveOf n m.call with
    | none => rfl
    | some record =>
      have hsome := isSome_transferred hwindow h hm (by rw [hmove]; rfl)
      rw [hlog] at hsome
      cases hsome

theorem arg_of_assigned {fromBlock toBlock : ℕ} {log : EventLog}
    (h : m.matches? "AssetAssigned" n fromBlock toBlock = some log) : log.arg "fromCustodian" = none := by
  obtain ⟨event, -, rfl, hname, -⟩ := matches?_eq_some.mp h
  cases event with
  | assetAssigned tokenId assetIdDigest custodian operator assignedAt => simp [EventLog.arg, eventLog]
  | assetTransferred => simp [eventLog] at hname
  | forcedTransfer => simp [eventLog] at hname

theorem onlyTransfers_of_matches (hhistory : IsHistory governance accessControl history s)
    (hserves : Serves provider history latest) (htoken : Decimal.bigInt? tokenId = some (n : ℤ))
    (hn : n < 2 ^ 256) (hwindow : InWindow n history latest)
    (h : HistoryMatches provider tokenId (s.assetRegistry.custodyHistory n)) :
    OnlyTransfers n history := by
  obtain ⟨entryOf, hentryOf, hresult⟩ := getTransferHistory_eq hserves htoken hn
  rw [HistoryMatches, hresult] at h
  -- The entry of an assignment has no previous custodian, and every record has one.
  have hassigned : history.filterMap
      (Mined.matches? "AssetAssigned" n (latest - defaultWindow) latest) = [] := by
    by_contra hne
    obtain ⟨log, hlog⟩ := List.exists_mem_of_ne_nil _ hne
    obtain ⟨m, -, hmatch⟩ := List.mem_filterMap.mp hlog
    obtain ⟨-, hfrom, -⟩ := graphTransfer_eq_some (hentryOf log)
    rw [arg_of_assigned hmatch] at hfrom
    have hentry : shape (entryOf log) ∈ (s.assetRegistry.custodyHistory n).tail.map (recordShape provider) := by
      rw [← h]
      apply List.mem_map_of_mem
      rw [List.mem_mergeSort]
      exact List.mem_map_of_mem (List.mem_append_left _ hlog)
    obtain ⟨record, -, hrecord⟩ := List.mem_map.mp hentry
    exact hserves.address_ne record.fromCustodian ((congrArg Prod.fst hrecord).trans hfrom)
  -- The entries are as many as the records, so every move is one of the transfers.
  have htransferred : ∀ m ∈ history, (Chain.moveOf n m.call).isSome = true →
      (m.matches? "AssetTransferred" n (latest - defaultWindow) latest).isSome = true := by
    have hlength := congrArg List.length h
    rw [List.length_map, List.length_mergeSort, List.length_map, hassigned, List.nil_append,
      List.length_map, hhistory.records, List.length_filterMap_eq_countP,
      List.length_filterMap_eq_countP] at hlength
    refine forall_of_countP_eq (fun m _ hmatch => ?_) hlength
    obtain ⟨log, hlog⟩ := Option.isSome_iff_exists.mp hmatch
    obtain ⟨record, hrecord, -⟩ := Option.map_eq_some_iff.mp (shape_of_transfer hlog (hentryOf log))
    rw [hrecord]
    rfl
  intro m hm call hcall
  obtain ⟨blockNumber, transactionHash, ⟨⟨msg, call'⟩, t, t'⟩⟩ := m
  cases hcall
  constructor
  · rintro ⟨custodian, rfl⟩
    have hmatch := exists_match hwindow hm rfl rfl
    exact Option.some_ne_none _ (hmatch.symm.trans (List.filterMap_eq_nil_iff.mp hassigned _ hm))
  · rintro ⟨toCustodian, reason, rfl⟩
    have hmatch := htransferred _ hm (moveOf_isSome.mpr ⟨_, rfl, rfl⟩)
    obtain ⟨log, hlog⟩ := Option.isSome_iff_exists.mp hmatch
    obtain ⟨event, hevent, hspelt, hname, -⟩ := matches?_eq_some.mp hlog
    cases hevent
    rw [hspelt] at hname
    simp [eventLog] at hname

/-- The service gives the history of the token exactly when its custody was moved by
`transferCustody` only. -/
theorem transferHistory_matches_iff (hhistory : IsHistory governance accessControl history s)
    (hserves : Serves provider history latest) (htoken : Decimal.bigInt? tokenId = some (n : ℤ))
    (hn : n < 2 ^ 256) (hwindow : InWindow n history latest) :
    HistoryMatches provider tokenId (s.assetRegistry.custodyHistory n) ↔ OnlyTransfers n history :=
  ⟨onlyTransfers_of_matches hhistory hserves htoken hn hwindow,
    matches_of_onlyTransfers hhistory hserves htoken hn hwindow⟩

end

/-! ### A node -/

/-- A node with that history; its texts of addresses are their numbers in hex. -/
def nodeOf (history : List Mined) (latest : ℕ) : GraphProvider where
  getBlockNumber := some latest
  queryFilter name token fromBlock toBlock :=
    if 0 ≤ token ∧ token.toNat < 2 ^ 256 then
      some (history.filterMap (Mined.matches? name token.toNat fromBlock toBlock))
    else none
  getBlock blockNumber := some (some (1700000000 + blockNumber))
  addressText a := "0x" ++ String.ofList (Nat.toDigits 16 a.toNat)
  bytes32Text digest := "0x" ++ String.ofList (Nat.toDigits 16 digest.toNat)

theorem nodeOf_serves (history : List Mined) (latest : ℕ) :
    Serves (nodeOf history latest) history latest where
  number := rfl
  logs name _ n hn fromBlock toBlock := by
    have hrange : (0 : ℤ) ≤ n ∧ (n : ℤ).toNat < 2 ^ 256 := ⟨Int.natCast_nonneg n, hn⟩
    exact if_pos hrange
  blocks _ := ⟨_, rfl⟩
  address_ne a h := by
    have hlist := congrArg String.toList h
    simp [nodeOf] at hlist

/-- All calls in one block. -/
def inOneBlock (log : List Chain.Committed) : List Mined :=
  log.map fun e => { blockNumber := 1, transactionHash := "0x7a", call := e }

theorem isHistory_inOneBlock {governance : Address} {accessControl : SampraanAccessControl}
    {log : List Chain.Committed} {s : Chain}
    (hr : (Chain.machine governance).Run (fun _ _ => True) (Chain.deploy accessControl) log s) :
    IsHistory governance accessControl (inOneBlock log) s where
  run := by
    rw [inOneBlock, List.map_map]
    exact (List.map_id log).symm ▸ hr
  ordered := by
    rw [inOneBlock, List.pairwise_map]
    exact List.pairwise_of_forall fun _ _ => le_refl _

theorem inWindow_inOneBlock (n : ℕ) (log : List Chain.Committed) : InWindow n (inOneBlock log) 1 := by
  intro m hm event _ _
  obtain ⟨e, -, rfl⟩ := List.mem_map.mp hm
  exact ⟨Nat.sub_le 1 defaultWindow, le_refl 1⟩

theorem bigInt?_one : Decimal.bigInt? "1" = some ((1 : ℕ) : ℤ) := by decide

/-- An assignment, and then a forced transfer. -/
theorem assigned_history_differs : ∃ history s,
    IsHistory 0x60 SampraanAccessControl.sampleState history s ∧
      history.map (fun m => m.call.1) = Chain.sampleCalls ∧ InWindow 1 history 1 ∧
        ¬ HistoryMatches (nodeOf history 1) "1" (s.assetRegistry.custodyHistory 1) := by
  obtain ⟨⟨log, s⟩, hexec, hcalls⟩ : ∃ r, (Chain.machine 0x60).exec (fun _ _ => True)
      Chain.sampleCalls [] (Chain.deploy SampraanAccessControl.sampleState) = some r ∧
        (inOneBlock r.1).map (fun m => m.call.1) = Chain.sampleCalls := ⟨_, rfl, rfl⟩
  have hhistory := isHistory_inOneBlock (Machine.exec_run .init hexec)
  refine ⟨inOneBlock log, s, hhistory, hcalls, inWindow_inOneBlock 1 log, fun h => ?_⟩
  have honly := onlyTransfers_of_matches hhistory (nodeOf_serves _ 1) bigInt?_one (by decide)
    (inWindow_inOneBlock 1 log) h
  have hassigned : (({ sender := 0xA11CE, timestamp := 1700000000 } : Msg),
      Chain.Call.assetRegistry (.assignAsset 1 0xCA401)) ∈ (inOneBlock log).map fun m => m.call.1 := by
    rw [hcalls]
    simp [Chain.sampleCalls]
  obtain ⟨m, hm, hcall⟩ := List.mem_map.mp hassigned
  exact (honly m hm _ (congrArg Prod.snd hcall)).1 ⟨_, rfl⟩

def sampleTransfers : List (Msg × Chain.Call) :=
  let admin : Msg := { sender := 0xA11CE, timestamp := 1700000000 }
  [(admin, .identityRegistry (.registerIdentity 0xB0B 0xD1D 0x9B)),
    (admin, .identityRegistry (.verifyIdentity 0xB0B "papers seen")),
    (admin, .identityRegistry (.registerIdentity 0xCA401 0xD2D 0x9C)),
    (admin, .identityRegistry (.verifyIdentity 0xCA401 "papers seen")),
    (admin, .assetRegistry (.registerAsset 0xA55E7 0xB0B 0xC1 0x3D)),
    (admin, .assetRegistry (.activateAsset 1)),
    (admin, .assetRegistry (.transferCustody 1 0xCA401)),
    (admin, .assetRegistry (.transferCustody 1 0xB0B))]

/-- Two transfers in one block. -/
theorem transferHistory_matches_iff_sample : ∃ (history : List Mined) (s : Chain),
    (s.assetRegistry.custodyHistory 1).length = 3 ∧
      HistoryMatches (nodeOf history 1) "1" (s.assetRegistry.custodyHistory 1) := by
  obtain ⟨⟨log, s⟩, hexec, hcalls, hlength⟩ : ∃ r, (Chain.machine 0x60).exec (fun _ _ => True)
      sampleTransfers [] (Chain.deploy SampraanAccessControl.sampleState) = some r ∧
        (inOneBlock r.1).map (fun m => m.call.1) = sampleTransfers ∧
          (r.2.assetRegistry.custodyHistory 1).length = 3 := ⟨_, rfl, rfl, rfl⟩
  have hhistory := isHistory_inOneBlock (Machine.exec_run .init hexec)
  refine ⟨inOneBlock log, s, hlength, (transferHistory_matches_iff hhistory (nodeOf_serves _ 1)
    bigInt?_one (by decide) (inWindow_inOneBlock 1 log)).mpr ?_⟩
  intro m hm call hcall
  have hmem : m.call.1.2 ∈ sampleTransfers.map Prod.snd := by
    rw [← hcalls, List.map_map]
    exact List.mem_map_of_mem hm
  rw [hcall] at hmem
  constructor
  · rintro ⟨custodian, rfl⟩
    simp [sampleTransfers] at hmem
  · rintro ⟨toCustodian, reason, rfl⟩
    simp [sampleTransfers] at hmem

end Sampraan.Graph
