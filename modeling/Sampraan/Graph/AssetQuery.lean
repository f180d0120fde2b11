import Sampraan.Contracts.Balances
import Sampraan.Graph.Subgraph
import Sampraan.Graph.TransferHistory

/-! `getAsset` and `getProvenance` of `graph.service.ts`: the record of the registry, with what the window
shows of the mint and of the chain of custody. -/

namespace Sampraan.Graph

open Library Contracts

/-! ### The service -/

/-- The provider, with the views of the asset registry; a view that reverts answers `none`. -/
structure AssetNode extends GraphProvider where
  keccak256 : String → Bytes32
  resolveAssetId : Bytes32 → Option ℕ
  getAsset : ℕ → Option AssetRecord

structure GraphAsset where
  tokenId : String
  assetIdDigest : String
  classificationDigest : String
  status : ℕ
  custodian : String
  creator : Option String
  mintTransactionHash : Option String
  mintBlockNumber : Option ℕ
  mintedAt : Option ℕ
  deriving DecidableEq

structure Mint where
  creator : String
  transactionHash : String
  blockNumber : ℕ
  timestamp : ℕ

/-- The first of the events. -/
def mintOf (node : AssetNode) (logs : List EventLog) : Option Mint := do
  let log ← logs.head?
  let block ← node.getBlock log.blockNumber
  some
    { creator := argText node.toGraphProvider (log.arg "custodian")
      transactionHash := log.transactionHash
      blockNumber := log.blockNumber
      timestamp := block.getD 0 }

/-- A failure counts as not found. -/
def findMint (node : AssetNode) (tokenId : ℕ) : Option Mint := do
  let latest ← node.getBlockNumber
  let fromBlock := latest - defaultWindow
  let logs ← node.queryFilter "AssetRegistered" tokenId fromBlock latest
  mintOf node logs

def assetOf (node : AssetNode) (tokenId : ℕ) (record : AssetRecord) (mint : Option Mint) : GraphAsset where
  tokenId := toString tokenId
  assetIdDigest := node.bytes32Text record.assetIdDigest
  classificationDigest := node.bytes32Text record.classificationDigest
  status := assetStatusNumber record.status
  custodian := node.addressText record.custodian
  creator := mint.map Mint.creator
  mintTransactionHash := mint.map Mint.transactionHash
  mintBlockNumber := mint.map Mint.blockNumber
  mintedAt := mint.map Mint.timestamp

/-- The body of the `try`. -/
def queryAsset (node : AssetNode) (assetId : String) : Option GraphAsset := do
  let tokenId ← node.resolveAssetId (node.keccak256 assetId)
  if tokenId = 0 then none
  else
    let record ← node.getAsset tokenId
    some (assetOf node tokenId record (findMint node tokenId))

def getAsset (contracts : Option AssetNode) (assetId : String) : Option GraphAsset :=
  contracts.bind fun node => queryAsset node assetId

def getProvenance (contracts : Option AssetNode) (assetId : String) :
    Option GraphAsset × List GraphTransfer :=
  match getAsset contracts assetId with
  | none => (none, [])
  | some asset =>
    (some asset, getTransferHistory (contracts.map AssetNode.toGraphProvider) asset.tokenId)

/-! ### The chain behind the node -/

def registeredEvent (blockNumber : ℕ) (transactionHash : String) (tokenId : ℕ) (assetIdDigest : Bytes32)
    (custodian : Address) (classificationDigest metadataDigest : Bytes32) (registeredAt : ℕ) :
    EventLog where
  eventName := "AssetRegistered"
  args :=
    [("tokenId", .uint tokenId), ("assetIdDigest", .bytes32 assetIdDigest),
      ("custodian", .address custodian), ("classificationDigest", .bytes32 classificationDigest),
      ("metadataDigest", .bytes32 metadataDigest), ("registeredAt", .uint registeredAt)]
  blockNumber := blockNumber
  transactionHash := transactionHash

def mintEvent (n : ℕ) (m : Mined) : IndexedEvent → Option EventLog
  | .assetRegistered tokenId assetIdDigest custodian classificationDigest metadataDigest registeredAt =>
    if tokenId = n then
      some (registeredEvent m.blockNumber m.transactionHash tokenId assetIdDigest custodian
        classificationDigest metadataDigest registeredAt)
    else none
  | _ => none

def mintLog (n : ℕ) (m : Mined) : Option EventLog := (Chain.indexedEvent m.call).bind (mintEvent n m)

def registersDigest (d : Bytes32) (m : Mined) : Prop :=
  ∃ custodian classificationDigest metadataDigest, m.call.1.2 =
    .assetRegistry (.registerAsset d custodian classificationDigest metadataDigest)

/-- The node answers from a chain of that history and state, whose blocks go up to `latest`. -/
structure ServesAssets (node : AssetNode) (history : List Mined) (s : Chain) (latest : ℕ) : Prop
    extends Serves node.toGraphProvider history latest where
  upTo : ∀ m ∈ history, m.blockNumber ≤ latest
  mints : ∀ n : ℕ, n < 2 ^ 256 → ∀ fromBlock, node.queryFilter "AssetRegistered" n fromBlock latest =
    some ((history.filterMap (mintLog n)).filter fun log => fromBlock ≤ log.blockNumber)
  resolves : ∀ d, node.resolveAssetId d = some (s.assetRegistry.assetIdToToken d)
  records : ∀ n, s.assetRegistry.status n ≠ .none → node.getAsset n = some (s.assetRegistry.assets n)

/-! ### The mint of a token -/

/-- The calls for a token beside its record: none before the mint, which is the only one, and the
custodian of the mint is the recipient of the first record. -/
inductive Minted (n : ℕ) (history : List Mined) (r : SampraanAssetRegistry) : Prop
  | unregistered (hstatus : r.status n = .none)
    (hquiet : ∀ m ∈ history, mintLog n m = none ∧ Chain.moveOf n m.call = none)
  | registered (before : List Mined) (m : Mined) (after : List Mined) (log : EventLog)
    (record : CustodyRecord) (hstatus : r.status n ≠ .none) (hhistory : history = before ++ m :: after)
    (hlog : mintLog n m = some log) (hdigest : registersDigest (r.digest n) m)
    (hbefore : ∀ m ∈ before, mintLog n m = none ∧ Chain.moveOf n m.call = none)
    (hmint : Chain.moveOf n m.call = none) (hafter : ∀ m ∈ after, mintLog n m = none)
    (hrecord : (r.custodyHistory n).head? = some record)
    (hcustodian : log.arg "custodian" = some (.address record.toCustodian))

section

variable {governance : Address} {view : View} {msg : Msg} {n : ℕ} {history : List Mined} {m : Mined}
  {r r' : SampraanAssetRegistry} {call : SampraanAssetRegistry.Call}

theorem Minted.keep (h : Minted n history r) (hnone : r'.status n = .none ↔ r.status n = .none)
    (hdigest : r'.digest n = r.digest n)
    (hhead : ∀ record, (r.custodyHistory n).head? = some record → (r'.custodyHistory n).head? = some record)
    (hlog : mintLog n m = none) (hmove : r.status n = .none → Chain.moveOf n m.call = none) :
    Minted n (history ++ [m]) r' := by
  cases h with
  | unregistered hstatus hquiet =>
    refine .unregistered (hnone.mpr hstatus) fun m' hm' => ?_
    rcases List.mem_append.mp hm' with hm' | hm'
    · exact hquiet m' hm'
    · obtain rfl := List.mem_singleton.mp hm'
      exact ⟨hlog, hmove hstatus⟩
  | registered before first after log record hstatus hhistory hfirst hregisters hbefore hmint hafter hrecord
      hcustodian =>
    refine .registered before first (after ++ [m]) log record (mt hnone.mp hstatus) (by simp [hhistory])
      hfirst (hdigest ▸ hregisters) hbefore hmint ?_ (hhead record hrecord) hcustodian
    intro m' hm'
    rcases List.mem_append.mp hm' with hm' | hm'
    · exact hafter m' hm'
    · obtain rfl := List.mem_singleton.mp hm'
      exact hlog

theorem Minted.mint (h : Minted n history r) (hnone : r.status n = .none) (hstatus : r'.status n ≠ .none)
    (log : EventLog) (hlog : mintLog n m = some log) (hdigest : registersDigest (r'.digest n) m)
    (hmove : Chain.moveOf n m.call = none) (record : CustodyRecord)
    (hrecord : (r'.custodyHistory n).head? = some record)
    (hcustodian : log.arg "custodian" = some (.address record.toCustodian)) :
    Minted n (history ++ [m]) r' := by
  cases h with
  | unregistered _ hquiet =>
    exact .registered history m [] log record hstatus rfl hlog hdigest hquiet hmove (by simp) hrecord
      hcustodian
  | registered before first after log record hregistered => exact absurd hnone hregistered

/-- A call only adds to the records of a token. -/
theorem custodyHistory_grows (h : SampraanAssetRegistry.Effect r r') (n : ℕ) :
    r.custodyHistory n <+: r'.custodyHistory n := by
  have hpush {tokenId : ℕ} {record : CustodyRecord} (h : r'.custodyHistory =
      Function.update r.custodyHistory tokenId (r.custodyHistory tokenId ++ [record])) :
      r.custodyHistory n <+: r'.custodyHistory n := by
    rw [h]
    by_cases hn : n = tokenId
    · subst hn
      rw [Function.update_self]
      exact List.prefix_append _ _
    · rw [Function.update_of_ne hn]
  obtain hsame | ⟨d, c, h⟩ | ⟨tokenId, c, h⟩ | ⟨tokenId, new, h⟩ | ⟨tokenId, h⟩ := h.custody_cases
  · rw [hsame.custodyHistory]
  · obtain ⟨record, hhistory, -⟩ := h.custodyHistory
    exact hpush hhistory
  · obtain ⟨record, hhistory, -⟩ := h.custodyHistory
    exact hpush hhistory
  · rw [h.custodyHistory]
  · rw [h.custodyHistory]

theorem head?_of_prefix {α : Type} {l l' : List α} (h : l <+: l') {a : α} (ha : l.head? = some a) :
    l'.head? = some a := by
  obtain ⟨t, rfl⟩ := h
  rw [List.head?_append, ha]
  rfl

theorem keepsTokens_of_run (h : SampraanAssetRegistry.run governance view msg r call = .ok r')
    (htokens : SampraanAssetRegistry.Tokens r) (hmints : call.mints = false) :
    SampraanAssetRegistry.KeepsTokens r r' := by
  rcases (SampraanAssetRegistry.run_effect h).keepsTokens with ⟨d, c, hregisters⟩ | hkeeps
  · have hnext := (SampraanAssetRegistry.run_supplies h htokens).minted
    rw [hmints, hregisters.nextTokenId] at hnext
    simp at hnext
  · exact hkeeps

/-- Custody moves of registered tokens only. -/
theorem moveOf_unregistered (hdoes : call.Does governance view msg r r') (hnone : r.status n = .none) :
    call.moveOf n msg r = none := by
  have hne {tokenId : ℕ} {c : Address} (h : SampraanAssetRegistry.MovesCustody tokenId c r r') :
      tokenId ≠ n := by
    rintro rfl
    exact h.registered hnone
  cases call with
  | assignAsset tokenId custodian => exact if_neg (hne hdoes.2.2.2)
  | transferCustody tokenId toCustodian => exact if_neg (hne hdoes.2.2.2.2)
  | governanceForceTransfer tokenId toCustodian reason => exact if_neg (hne hdoes.2)
  | _ => rfl

end

section

variable {governance : Address} {accessControl : SampraanAccessControl} {history : List Mined}
  {s : Chain} {n latest : ℕ} {m : Mined}

theorem mintLog_other (h : ∀ call, m.call.1.2 ≠ .assetRegistry call) :
    mintLog n m = none ∧ Chain.moveOf n m.call = none := by
  obtain ⟨blockNumber, transactionHash, ⟨⟨msg, call⟩, s, t⟩⟩ := m
  cases call with
  | assetRegistry call => exact absurd rfl (h call)
  | identityRegistry call => cases call <;> exact ⟨rfl, rfl⟩
  | accessControl call =>
    refine ⟨?_, rfl⟩
    cases call <;>
      · simp only [mintLog, Chain.indexedEvent, SampraanAccessControl.Call.indexedEvent]
        split <;> rfl

theorem minted_of_history (h : IsHistory governance accessControl history s) (n : ℕ) :
    Minted n history s.assetRegistry := by
  refine h.run.noted (fun history s => Minted n history s.assetRegistry) ?_ ?_
  · exact .unregistered rfl (by simp)
  · rintro history ⟨blockNumber, transactionHash, ⟨⟨msg, call⟩, s, t⟩⟩ hr - hrun ih
    have hdoes := Chain.run_does hrun
    have hother (hsame : t.assetRegistry = s.assetRegistry) (hcall : ∀ c, call ≠ .assetRegistry c) :
        Minted n (history ++ [⟨blockNumber, transactionHash, (msg, call), s, t⟩]) t.assetRegistry := by
      obtain ⟨hlog, hmove⟩ := mintLog_other (n := n)
        (m := ⟨blockNumber, transactionHash, (msg, call), s, t⟩) hcall
      rw [hsame]
      exact ih.keep Iff.rfl rfl (fun _ h => h) hlog fun _ => hmove
    cases call with
    | accessControl call => exact hother hdoes.2.2 (by simp)
    | identityRegistry call => exact hother hdoes.2.2 (by simp)
    | assetRegistry call =>
      obtain ⟨htokens, haligned⟩ := SampraanAssetRegistry.aligned_of_run (Chain.assetRegistry_run hr)
      have hcall := SampraanAssetRegistry.run_does hdoes.1
      have heffect := hcall.effect
      have hhead := fun record => head?_of_prefix (a := record) (custodyHistory_grows heffect n)
      by_cases hmints : call.mints = true
      · cases call with
        | registerAsset d custodian classificationDigest metadataDigest =>
          have hregisters := hcall.2.2
          obtain ⟨hpending, hdigest⟩ := hregisters.at_next
          by_cases hn : n = s.assetRegistry.nextTokenId
          · subst hn
            obtain ⟨record, hhistory, -, hcustodian⟩ := hregisters.custodyHistory
            have hnil := ((haligned _).unminted htokens.next_unregistered).2
            rw [hnil] at hhistory
            refine ih.mint htokens.next_unregistered (by rw [hpending]; decide)
              (registeredEvent blockNumber transactionHash s.assetRegistry.nextTokenId d custodian
                classificationDigest metadataDigest (uint64 msg.timestamp)) (if_pos rfl)
              ⟨custodian, classificationDigest, metadataDigest, ?_⟩ rfl record ?_ ?_
            · rw [hdigest]
            · rw [hhistory, Function.update_self]
              rfl
            · rw [hcustodian]
              rfl
          · obtain ⟨hstatus, hsame⟩ := hregisters.elsewhere hn
            refine ih.keep (by rw [hstatus]) hsame hhead (if_neg (Ne.symm hn)) fun _ => rfl
        | _ => cases hmints
      · have hkeeps := keepsTokens_of_run hdoes.1 htokens (Bool.eq_false_iff.mpr hmints)
        refine ih.keep (hkeeps.unregistered n) (hkeeps.digest n) hhead ?_ (moveOf_unregistered hcall)
        cases call with
        | registerAsset => exact absurd rfl hmints
        | _ => rfl

/-! ### The window -/

/-- The calls in the blocks that the service scans. -/
def recent (history : List Mined) (latest : ℕ) : List Mined :=
  history.filter fun m => latest - defaultWindow ≤ m.blockNumber

theorem eq_older_append_recent (h : history.Pairwise fun m m' => m.blockNumber ≤ m'.blockNumber)
    (latest : ℕ) : history =
      history.filter (fun m => m.blockNumber < latest - defaultWindow) ++ recent history latest := by
  induction history with
  | nil => rfl
  | cons m history ih =>
    obtain ⟨hle, hrest⟩ := List.pairwise_cons.mp h
    by_cases hm : m.blockNumber < latest - defaultWindow
    · have hrecent : recent (m :: history) latest = recent history latest := by
        apply List.filter_cons_of_neg
        rw [decide_eq_true_iff]
        omega
      rw [hrecent, List.filter_cons_of_pos (by simpa using hm), List.cons_append, ← ih hrest]
    · have hnone : (m :: history).filter (fun m => m.blockNumber < latest - defaultWindow) = [] := by
        rw [List.filter_eq_nil_iff]
        intro m' hm'
        rw [decide_eq_true_iff]
        rcases List.mem_cons.mp hm' with rfl | hm'
        · exact hm
        · have hlater := hle m' hm'
          omega
      have hall : recent (m :: history) latest = m :: history := by
        apply List.filter_eq_self.mpr
        intro m' hm'
        rw [decide_eq_true_iff]
        rcases List.mem_cons.mp hm' with rfl | hm'
        · omega
        · have hlater := hle m' hm'
          omega
      rw [hnone, hall, List.nil_append]

theorem inWindow_recent (hupTo : ∀ m ∈ history, m.blockNumber ≤ latest) :
    InWindow n (recent history latest) latest := by
  intro m hm event _ _
  obtain ⟨hm, hwindow⟩ := List.mem_filter.mp hm
  exact ⟨of_decide_eq_true hwindow, hupTo m hm⟩

theorem matches?_recent {name : String} : (recent history latest).filterMap
      (Mined.matches? name n (latest - defaultWindow) latest) =
    history.filterMap (Mined.matches? name n (latest - defaultWindow) latest) := by
  rw [recent, List.filterMap_filter]
  apply List.filterMap_congr
  intro m _
  split
  · rfl
  · rename_i hold
    symm
    rw [Option.eq_none_iff_forall_ne_some]
    intro log hlog
    obtain ⟨event, -, -, -, -, hblock, -⟩ := matches?_eq_some.mp hlog
    exact hold (decide_eq_true hblock)

/-! ### The answer -/

/-- The moves of the token in the window. -/
def recentMoves (n : ℕ) (history : List Mined) (latest : ℕ) : List CustodyRecord :=
  (recent history latest).filterMap fun m => Chain.moveOf n m.call

theorem shown_moves {provider : GraphProvider} (hhistory : IsHistory governance accessControl history s)
    (hserves : Serves provider history latest) (hupTo : ∀ m ∈ history, m.blockNumber ≤ latest)
    (hn : n < 2 ^ 256) (h : OnlyTransfers n history) :
    (getTransferHistory (some provider) (toString n)).map shape =
      (recentMoves n history latest).map (recordShape provider) := by
  obtain ⟨entryOf, hentryOf, hresult⟩ := getTransferHistory_eq hserves (Decimal.bigInt?_toString n) hn
  rw [no_assigned h, List.nil_append] at hresult
  have hsorted : ((history.filterMap
      (Mined.matches? "AssetTransferred" n (latest - defaultWindow) latest)).map entryOf).Pairwise
        fun a b => decide (a.blockNumber ≤ b.blockNumber) = true := by
    rw [List.pairwise_map]
    refine hhistory.ordered.filterMap _ fun m m' hle log hlog log' hlog' => ?_
    rw [decide_eq_true_iff, (graphTransfer_eq_some (hentryOf log)).1,
      (graphTransfer_eq_some (hentryOf log')).1, matches?_blockNumber hlog, matches?_blockNumber hlog']
    exact hle
  have hrecent : OnlyTransfers n (recent history latest) :=
    fun m hm => h m (List.mem_of_mem_filter hm)
  rw [hresult, List.mergeSort_of_pairwise hsorted, ← matches?_recent, recentMoves, List.map_map,
    List.map_filterMap, List.map_filterMap]
  refine List.filterMap_congr fun m hm => ?_
  cases hlog : m.matches? "AssetTransferred" n (latest - defaultWindow) latest with
  | some log => exact (shape_of_transfer hlog (hentryOf log)).symm
  | none =>
    cases hmove : Chain.moveOf n m.call with
    | none => rfl
    | some record =>
      have hsome := isSome_transferred (inWindow_recent hupTo) hrecent hm (by rw [hmove]; rfl)
      rw [hlog] at hsome
      cases hsome

/-- What the service says of the mint: nothing, when the mint lies before the window. -/
structure ShowsMint (node : AssetNode) (n latest : ℕ) (m : Mined) (record : CustodyRecord)
    (asset : GraphAsset) : Prop where
  minted : (mintLog n m).isSome = true
  creator : asset.creator = if latest - defaultWindow ≤ m.blockNumber then
    some (node.addressText record.toCustodian) else none
  transactionHash : asset.mintTransactionHash =
    if latest - defaultWindow ≤ m.blockNumber then some m.transactionHash else none
  blockNumber : asset.mintBlockNumber =
    if latest - defaultWindow ≤ m.blockNumber then some m.blockNumber else none

/-- The transfers that are shown lead, one after the other, to the custodian, and from the creator when
the mint is shown. -/
def Connected (asset : GraphAsset) (transfers : List GraphTransfer) : Prop :=
  ∃ first, Trail GraphTransfer.fromCustodian GraphTransfer.toCustodian first transfers ∧
    trailEnd GraphTransfer.toCustodian first transfers = asset.custodian ∧
      ∀ creator ∈ asset.creator, creator = first

structure ShowsAsset (node : AssetNode) (history : List Mined) (registry : SampraanAssetRegistry)
    (latest n : ℕ) (asset : GraphAsset) (transfers : List GraphTransfer) : Prop where
  registered : registry.status n ≠ .none
  tokenId : asset.tokenId = toString n
  assetIdDigest : asset.assetIdDigest = node.bytes32Text (registry.digest n)
  classificationDigest :
    asset.classificationDigest = node.bytes32Text (registry.assets n).classificationDigest
  status : asset.status = assetStatusNumber (registry.status n)
  custodian : asset.custodian = node.addressText (registry.custodian n)
  mint : ∃ m ∈ history, ∃ record ∈ (registry.custodyHistory n).head?,
    ShowsMint node n latest m record asset
  shown : OnlyTransfers n history →
    transfers.map shape = (recentMoves n history latest).map (recordShape node.toGraphProvider)
  connected : OnlyTransfers n history → Connected asset transfers

theorem mintLog_fields {log : EventLog} (h : mintLog n m = some log) :
    log.blockNumber = m.blockNumber ∧ log.transactionHash = m.transactionHash := by
  obtain ⟨event, -, hlog⟩ := Option.bind_eq_some_iff.mp h
  cases event with
  | assetRegistered tokenId assetIdDigest custodian classificationDigest metadataDigest registeredAt =>
    rw [mintEvent] at hlog
    split at hlog <;> cases hlog
    exact ⟨rfl, rfl⟩
  | _ => cases hlog

theorem findMint_bind {node : AssetNode} (h : node.getBlockNumber = some latest) :
    findMint node n =
      (node.queryFilter "AssetRegistered" n (latest - defaultWindow) latest).bind (mintOf node) := by
  rw [findMint, h]
  rfl

theorem findMint_eq {node : AssetNode} (hserves : ServesAssets node history s latest) (hn : n < 2 ^ 256)
    {log : EventLog} {custodian : Address} (hlogs : history.filterMap (mintLog n) = [log])
    (hlog : mintLog n m = some log) (hcustodian : log.arg "custodian" = some (.address custodian)) :
    ∃ timestamp, findMint node n = if latest - defaultWindow ≤ m.blockNumber then
      some
        { creator := node.addressText custodian
          transactionHash := m.transactionHash
          blockNumber := m.blockNumber
          timestamp := timestamp }
      else none := by
  obtain ⟨hblock, hhash⟩ := mintLog_fields hlog
  obtain ⟨block, hfound⟩ := hserves.blocks log.blockNumber
  refine ⟨block.getD 0, ?_⟩
  have hfind : findMint node n = mintOf node
      ([log].filter fun log => latest - defaultWindow ≤ log.blockNumber) := by
    rw [findMint_bind hserves.number, hserves.mints n hn, hlogs, Option.bind_some]
  rw [hfind]
  by_cases hwindow : latest - defaultWindow ≤ m.blockNumber
  · rw [if_pos hwindow, List.filter_cons_of_pos (by rw [hblock]; exact decide_eq_true hwindow), mintOf,
      List.head?_cons, Option.bind_eq_bind, Option.bind_some, hfound, Option.bind_eq_bind,
      Option.bind_some, hcustodian, hblock, hhash]
    rfl
  · rw [if_neg hwindow, List.filter_cons_of_neg (by rw [hblock, decide_eq_true_iff]; exact hwindow)]
    rfl

theorem shape_trail {provider : GraphProvider} {transfers : List GraphTransfer}
    {moves : List CustodyRecord} (h : transfers.map shape = moves.map (recordShape provider)) {a : Address}
    (htrail : Trail CustodyRecord.fromCustodian CustodyRecord.toCustodian a moves) :
    Trail GraphTransfer.fromCustodian GraphTransfer.toCustodian (provider.addressText a) transfers ∧
      trailEnd GraphTransfer.toCustodian (provider.addressText a) transfers =
        provider.addressText (trailEnd CustodyRecord.toCustodian a moves) := by
  have hmoves : Trail Prod.fst (fun e : String × String × String => e.2.1) (provider.addressText a)
      (moves.map (recordShape provider)) := trail_map.mpr (htrail.image provider.addressText)
  have hshown : trailEnd (fun e : String × String × String => e.2.1) (provider.addressText a)
      (transfers.map shape) = trailEnd GraphTransfer.toCustodian (provider.addressText a) transfers :=
    trailEnd_map
  rw [← h] at hmoves
  constructor
  · have htransfers : Trail (Prod.fst ∘ shape) ((fun e : String × String × String => e.2.1) ∘ shape)
        (provider.addressText a) transfers := trail_map.mp hmoves
    exact htransfers
  · rw [← hshown, h, trailEnd_map]
    exact trailEnd_image provider.addressText

theorem getAsset_eq {node : AssetNode} (hserves : ServesAssets node history s latest) (assetId : String) :
    getAsset (some node) assetId =
      if s.assetRegistry.assetIdToToken (node.keccak256 assetId) = 0 then none
      else (node.getAsset (s.assetRegistry.assetIdToToken (node.keccak256 assetId))).map fun record =>
        assetOf node (s.assetRegistry.assetIdToToken (node.keccak256 assetId)) record
          (findMint node (s.assetRegistry.assetIdToToken (node.keccak256 assetId))) := by
  rw [getAsset, Option.bind_some, queryAsset, hserves.resolves, Option.bind_eq_bind, Option.bind_some]
  split
  · rfl
  · cases node.getAsset (s.assetRegistry.assetIdToToken (node.keccak256 assetId)) <;> rfl

/-- The history has a registration of the digest when the registry knows it. -/
theorem registered_iff (h : IsHistory governance accessControl history s) (d : Bytes32) :
    s.assetRegistry.assetIdToToken d = 0 ↔ ∀ m ∈ history, ¬ registersDigest d m := by
  have htokens := SampraanAssetRegistry.tokens_of_run (Chain.assetRegistry_run h.run)
  constructor
  · rintro hzero m hm ⟨custodian, classificationDigest, metadataDigest, hcall⟩
    obtain ⟨n, log, hlog⟩ : ∃ n log, mintLog n m = some log := by
      obtain ⟨blockNumber, transactionHash, ⟨⟨msg, call⟩, t, t'⟩⟩ := m
      obtain rfl : call = _ := hcall
      exact ⟨t.assetRegistry.nextTokenId, _, if_pos rfl⟩
    cases minted_of_history h n with
    | unregistered _ hquiet =>
      rw [(hquiet m hm).1] at hlog
      cases hlog
    | registered before first after log' record hstatus hsplit _ hregisters hbefore _ hafter =>
      rw [hsplit, List.mem_append, List.mem_cons] at hm
      rcases hm with hm | rfl | hm
      · rw [(hbefore m hm).1] at hlog
        cases hlog
      · obtain ⟨custodian', classificationDigest', metadataDigest', hcall'⟩ := hregisters
        rw [hcall] at hcall'
        have hdigest : d = s.assetRegistry.digest n := by
          injection hcall' with hcall'
          injection hcall'
        have hpos := ((htokens.registered n).mp hstatus).1
        have htoken := (htokens.ids d n (by omega)).mpr ⟨hstatus, hdigest.symm⟩
        omega
      · rw [hafter m hm] at hlog
        cases hlog
  · intro hall
    by_contra hne
    obtain ⟨hstatus, hdigest⟩ := (htokens.ids d _ hne).mp rfl
    cases minted_of_history h (s.assetRegistry.assetIdToToken d) with
    | unregistered hnone _ => exact hstatus hnone
    | registered before m after log record _ hsplit _ hregisters =>
      rw [hdigest] at hregisters
      exact hall m (by simp [hsplit]) hregisters

/-- The moves before the window, of which there are none when the mint lies in it. -/
def olderMoves (n : ℕ) (history : List Mined) (latest : ℕ) : List CustodyRecord :=
  (history.filter fun m => m.blockNumber < latest - defaultWindow).filterMap fun m => Chain.moveOf n m.call

theorem olderMoves_nil (hhistory : IsHistory governance accessControl history s) {before after : List Mined}
    (hsplit : history = before ++ m :: after) (hbefore : ∀ m ∈ before, Chain.moveOf n m.call = none)
    (hwindow : latest - defaultWindow ≤ m.blockNumber) : olderMoves n history latest = [] := by
  rw [olderMoves, List.filterMap_eq_nil_iff]
  intro m' hm'
  obtain ⟨hm', hold⟩ := List.mem_filter.mp hm'
  rw [decide_eq_true_iff] at hold
  have hordered := hhistory.ordered
  rw [hsplit, List.pairwise_append, List.pairwise_cons] at hordered
  rw [hsplit, List.mem_append, List.mem_cons] at hm'
  rcases hm' with hm' | rfl | hm'
  · exact hbefore m' hm'
  · omega
  · have hle := hordered.2.1.1 m' hm'
    omega

theorem records_split (hhistory : IsHistory governance accessControl history s) {record : CustodyRecord}
    (hrecord : (s.assetRegistry.custodyHistory n).head? = some record) (latest : ℕ) :
    s.assetRegistry.custodyHistory n =
      (record :: olderMoves n history latest) ++ recentMoves n history latest := by
  have htail := hhistory.records n
  rw [eq_older_append_recent hhistory.ordered latest, List.filterMap_append] at htail
  rw [List.cons_append, ← List.cons_head?_tail hrecord, htail]
  rfl

/-- The answer exists when the asset has been registered, and is then the record of the registry. It says
of the mint and of the transfers what lies in the window; when custody has been moved by transfers only,
these lead to the custodian without a gap. -/
theorem provenance_live {node : AssetNode} (hhistory : IsHistory governance accessControl history s)
    (hserves : ServesAssets node history s latest) (assetId : String) :
    ((getProvenance (some node) assetId).1 = none ↔
      ∀ m ∈ history, ¬ registersDigest (node.keccak256 assetId) m) ∧
    ∀ asset, (getProvenance (some node) assetId).1 = some asset → ∃ n,
      s.assetRegistry.digest n = node.keccak256 assetId ∧
        ShowsAsset node history s.assetRegistry latest n asset (getProvenance (some node) assetId).2 := by
  have hasset := getAsset_eq hserves assetId
  have hregistered := registered_iff hhistory (node.keccak256 assetId)
  obtain ⟨htokens, hcounted⟩ :=
    SampraanAssetRegistry.counted_of_run (Chain.assetRegistry_run hhistory.run)
  by_cases hzero : s.assetRegistry.assetIdToToken (node.keccak256 assetId) = 0
  · rw [if_pos hzero] at hasset
    rw [getProvenance, hasset]
    exact ⟨iff_of_true rfl (hregistered.mp hzero), by simp⟩
  · rw [if_neg hzero] at hasset
    generalize hn : s.assetRegistry.assetIdToToken (node.keccak256 assetId) = n at hasset hzero
    obtain ⟨hstatus, hdigest⟩ := (htokens.ids _ n hzero).mp hn
    rw [hserves.records n hstatus, Option.map_some] at hasset
    rw [getProvenance, hasset]
    constructor
    · exact iff_of_false (by simp) fun hall => hzero (hn ▸ hregistered.mpr hall)
    rintro asset ⟨⟩
    refine ⟨n, hdigest, ?_⟩
    have hbound : n < 2 ^ 256 := ((htokens.registered n).mp hstatus).2.trans hcounted.bound
    cases minted_of_history hhistory n with
    | unregistered hnone _ => exact absurd hnone hstatus
    | registered before m after log record _ hsplit hlog _ hbefore hmint hafter hrecord hcustodian =>
      have hlogs : history.filterMap (mintLog n) = [log] := by
        rw [hsplit, List.filterMap_append, List.filterMap_cons_some hlog,
          List.filterMap_eq_nil_iff.mpr fun m hm => (hbefore m hm).1, List.filterMap_eq_nil_iff.mpr hafter]
        rfl
      obtain ⟨timestamp, hfound⟩ := findMint_eq hserves hbound hlogs hlog hcustodian
      have hshown := fun honly : OnlyTransfers n history =>
        shown_moves hhistory hserves.toServes hserves.upTo hbound honly
      have haligned := (SampraanAssetRegistry.aligned_of_run (Chain.assetRegistry_run hhistory.run)).2 n
      refine ⟨hstatus, rfl, rfl, rfl, rfl, rfl, ⟨m, by simp [hsplit], record, hrecord, ?_⟩, hshown,
        fun honly => ?_⟩
      · refine ⟨by rw [hlog]; rfl, ?_, ?_, ?_⟩ <;>
          · simp only [assetOf, hfound]
            split <;> rfl
      · have hsplitRecords := records_split hhistory hrecord latest
        have htrail := haligned.trail
        have hlast := haligned.last hstatus
        rw [hsplitRecords] at htrail hlast
        rw [trailEnd_join] at hlast
        obtain ⟨hconnected, hend⟩ := shape_trail (hshown honly) htrail.suffix
        rw [hlast] at hend
        refine ⟨_, hconnected, hend, fun creator hcreator => ?_⟩
        simp only [assetOf, hfound] at hcreator
        split at hcreator
        · rename_i hwindow
          obtain rfl : node.addressText record.toCustodian = creator := Option.some.inj hcreator
          rw [olderMoves_nil hhistory hsplit (fun m hm => (hbefore m hm).2) hwindow]
          rfl
        · cases hcreator

end

/-! ### A node -/

/-- keccak256("AST-1") -/
def sampleDigest : Bytes32 := 0x6afbe4de475bc33cf8c30985c8a02dfe952bbaed7dabcf69c721ba87df76eb1f

/-- A node with that history and state, for that one asset. -/
def assetNodeOf (history : List Mined) (s : Chain) (latest : ℕ) : AssetNode :=
  { nodeOf history latest with
    queryFilter := fun name token fromBlock toBlock =>
      if name = "AssetRegistered" then
        some ((history.filterMap (mintLog token.toNat)).filter fun log => fromBlock ≤ log.blockNumber)
      else (nodeOf history latest).queryFilter name token fromBlock toBlock
    keccak256 := fun assetId => if assetId = "AST-1" then sampleDigest else 0
    resolveAssetId := fun d => some (s.assetRegistry.assetIdToToken d)
    getAsset := fun n =>
      if s.assetRegistry.status n = .none then none else some (s.assetRegistry.assets n) }

theorem assetNodeOf_serves {history : List Mined} {latest : ℕ}
    (hupTo : ∀ m ∈ history, m.blockNumber ≤ latest) (s : Chain) :
    ServesAssets (assetNodeOf history s latest) history s latest where
  number := rfl
  logs name hname n hn fromBlock toBlock := by
    have hother : name ≠ "AssetRegistered" := by
      rintro rfl
      simp at hname
    have hlogs := (nodeOf_serves history latest).logs name hname n hn fromBlock toBlock
    simp only [assetNodeOf, if_neg hother]
    exact hlogs
  blocks _ := ⟨_, rfl⟩
  address_ne := (nodeOf_serves history latest).address_ne
  upTo := hupTo
  mints _ _ _ := rfl
  resolves _ := rfl
  records _ hregistered := if_neg hregistered

def sampleProvenance : List (Msg × Chain.Call) :=
  let admin : Msg := { sender := 0xA11CE, timestamp := 1700000000 }
  [(admin, .identityRegistry (.registerIdentity 0xB0B 0xD1D 0x9B)),
    (admin, .identityRegistry (.verifyIdentity 0xB0B "papers seen")),
    (admin, .identityRegistry (.registerIdentity 0xCA401 0xD2D 0x9C)),
    (admin, .identityRegistry (.verifyIdentity 0xCA401 "papers seen")),
    (admin, .assetRegistry (.registerAsset sampleDigest 0xB0B 0xC1 0x3D)),
    (admin, .assetRegistry (.activateAsset 1)),
    (admin, .assetRegistry (.transferCustody 1 0xCA401)),
    (admin, .assetRegistry (.suspendAsset 1))]

/-- An asset that has been transferred and then suspended. -/
theorem provenance_live_sample : ∃ (history : List Mined) (s : Chain) (asset : GraphAsset) (n : ℕ),
    (getProvenance (some (assetNodeOf history s 1)) "AST-1").1 = some asset ∧ asset.status = 3 ∧
      ShowsAsset (assetNodeOf history s 1) history s.assetRegistry 1 n asset
        (getProvenance (some (assetNodeOf history s 1)) "AST-1").2 := by
  obtain ⟨⟨log, s⟩, hexec, hanswer⟩ : ∃ r, (Chain.machine 0x60).exec (fun _ _ => True)
      sampleProvenance [] (Chain.deploy SampraanAccessControl.sampleState) = some r ∧
        ((getProvenance (some (assetNodeOf (inOneBlock r.1) r.2 1)) "AST-1").1.map GraphAsset.status) =
          some 3 := ⟨_, rfl, by decide +kernel⟩
  obtain ⟨asset, hasset, hstatus⟩ := Option.map_eq_some_iff.mp hanswer
  have hupTo : ∀ m ∈ inOneBlock log, m.blockNumber ≤ 1 := by
    intro m hm
    obtain ⟨e, -, rfl⟩ := List.mem_map.mp hm
    exact le_rfl
  have hlive := provenance_live (isHistory_inOneBlock (Machine.exec_run .init hexec))
    (assetNodeOf_serves hupTo s) "AST-1"
  obtain ⟨n, -, hshows⟩ := hlive.2 asset hasset
  exact ⟨inOneBlock log, s, asset, n, hasset, hstatus, hshows⟩

end Sampraan.Graph
