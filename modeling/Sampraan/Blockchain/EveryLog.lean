import Sampraan.Blockchain.NoLoss
import Sampraan.Library.Endless

/-!
Runs without end in which scans are answered again and again: every log from the first block on
gets a row of its own.
-/

namespace Sampraan.Blockchain

open Backend Library

/-! ### Scans that are answered -/

/-- In the state `w` the database answers, and so does the node. -/
structure Answers (env : Environment) (w : World) : Prop where
  configured : env.databaseConfigured = true
  initialized : (env.besu.any fun besu => besu.initializationError = none) = true
  database : w.databaseFails = false
  dedup : w.dedupReadsFail = false
  node : w.ledger.refusal = none

/-- The scan is let in, and each of its statements is answered. -/
structure Answered (env : Environment) (h : List (World × World)) : Prop where
  free : ∀ e ∈ h.head?, e.1.indexing = false
  answers : ∀ e ∈ h, Answers env e.1

/-- The statement is answered when the chain has come to the block `block`. -/
def AnswersAt (env : Environment) (block : ℕ) (w : World) : Prop :=
  Answers env w ∧ block ≤ w.ledger.latestBlock

section

variable {env : Environment} {block : ℕ}

theorem select_delivers {α : Type} {R : α → Prop} {refuses : World → Bool} {f : World → α}
    (hrefuses : ∀ s, AnswersAt env block s → refuses s = false)
    (hR : ∀ s, AnswersAt env block s → R (f s)) :
    (selectUnless refuses f).Delivers (AnswersAt env block) R := by
  refine .pending fun s hs => ?_
  simp only [hrefuses s hs]
  exact .fulfilled (hR s hs)

theorem view_delivers {α : Type} {R : α → Prop} {f : Ledger → α}
    (hR : ∀ s, AnswersAt env block s → R (f s.ledger)) :
    (Besu.view f).Delivers (AnswersAt env block) R := by
  refine .pending fun s hs => ?_
  simp only [hs.1.node]
  exact .fulfilled (hR s hs)

theorem getNetworkStatus_delivers {besu : BesuConfig} (hbesu : besu.initializationError = none) :
    (getNetworkStatus besu).Delivers (AnswersAt env block) fun status =>
      status.connected = true ∧ block ≤ status.latestBlock := by
  simp only [getNetworkStatus, Besu.ensureInitialized, hbesu]
  apply Async.Delivers.recover
  apply (view_delivers fun s hs => hs.2).bind
  exact fun latestBlock hlatest => .fulfilled ⟨rfl, hlatest⟩

theorem getEvents_delivers {besu : BesuConfig} (hbesu : besu.initializationError = none)
    (fromBlock toBlock : ℕ) :
    (getEvents besu fromBlock toBlock).Delivers (AnswersAt env block) fun _ => True := by
  simp only [getEvents, Besu.ensureInitialized, hbesu, Async.pure_eq, Async.fulfilled_bind]
  apply (view_delivers (R := fun _ => True) fun _ _ => trivial).bind
  intro _ _
  split
  · exact .fulfilled trivial
  · exact view_delivers fun _ _ => trivial

theorem storeAuditEvent_delivers (event : AuditEventRow) :
    (storeAuditEvent env event).Delivers (AnswersAt env block) fun _ => True := by
  unfold storeAuditEvent
  split
  · exact .fulfilled trivial
  apply (Async.delivers_statement (R := fun stored => stored = true) ?_).bind
  · rintro _ rfl
    exact select_delivers (fun s hs => hs.1.database) fun _ _ => trivial
  · intro s hs
    simp [hs.1.database]

theorem projectEvents_delivers (persistedKeys legacyTxHashes : List String)
    (events : List ChainEvent) (indexed skipped : ℕ) :
    (projectEvents env persistedKeys legacyTxHashes events indexed skipped).Delivers
      (AnswersAt env block) fun _ => True := by
  induction events generalizing indexed skipped with
  | nil => exact .fulfilled trivial
  | cons event events ih =>
    apply (Async.delivers_query (R := fun _ => True) fun _ _ => trivial).bind
    intro known _
    split
    · exact ih _ _
    cases project event with
    | none => exact ih _ _
    | some projected =>
      simp only
      split
      · exact ih _ _
      apply (storeAuditEvent_delivers projected).bind
      intro _ _
      exact .pending fun _ _ => ih _ _

theorem configured_select_delivers {α : Type} {R : α → Prop} (a : α) {refuses : World → Bool}
    {f : World → α} (hrefuses : ∀ s, AnswersAt env block s → refuses s = false)
    (ha : R a) (hR : ∀ s, AnswersAt env block s → R (f s)) :
    (if !env.databaseConfigured then pure a else selectUnless refuses f : Promise α).Delivers
      (AnswersAt env block) R := by
  split
  · exact .fulfilled ha
  · exact select_delivers hrefuses hR

theorem scanBlocks_delivers {besu : BesuConfig} (hbesu : besu.initializationError = none)
    (windowBlocks : ℕ) {latestBlock : ℕ} (hlatest : block ≤ latestBlock) :
    (scanBlocks env besu windowBlocks latestBlock).Delivers (AnswersAt env block) fun r =>
      block ≤ r.latestBlock := by
  have hdatabase : ∀ s, AnswersAt env block s → s.databaseFails = false := fun _ hs => hs.1.database
  have hdedup : ∀ s, AnswersAt env block s → s.dedupReadsFail = false := fun _ hs => hs.1.dedup
  apply (Async.Delivers.recover (R := fun _ => True)
    (configured_select_delivers _ hdatabase trivial fun _ _ => trivial) _).bind
  intro checkpoint _
  apply (Async.Delivers.recover (R := fun _ => True) ?_ _).bind
  · intro _ _
    apply ((getEvents_delivers hbesu _ latestBlock).recover _).bind
    intro events _
    apply (Async.Delivers.recover (R := fun _ => True)
      (configured_select_delivers _ hdedup trivial fun _ _ => trivial) _).bind
    intro persistedKeys _
    apply (Async.Delivers.recover (R := fun _ => True)
      (configured_select_delivers _ hdedup trivial fun _ _ => trivial) _).bind
    intro legacyTxHashes _
    apply (projectEvents_delivers persistedKeys legacyTxHashes events 0 0).bind
    exact fun _ _ => .fulfilled hlatest
  · apply (configured_select_delivers (R := fun _ => True) _ hdedup trivial
      fun _ _ => trivial).bind
    exact fun _ _ => .pending fun _ _ => .fulfilled trivial

theorem runScan_delivers (hbesu : (env.besu.any fun besu => besu.initializationError = none) = true)
    (windowBlocks : ℕ) :
    (runScan env windowBlocks).Delivers (AnswersAt env block) fun r => block ≤ r.latestBlock := by
  unfold runScan
  cases henv : env.besu with
  | none => simp [henv] at hbesu
  | some besu =>
    have hinitialized : besu.initializationError = none := by simpa [henv] using hbesu
    apply (getNetworkStatus_delivers hinitialized).bind
    rintro status ⟨hconnected, hlatest⟩
    rw [hconnected]
    exact scanBlocks_delivers hinitialized windowBlocks hlatest

/-- A scan that is answered to its end reports a block that the chain had come to. -/
theorem Answered.reports {W : World → World → Prop} {s : World} {h : List (World × World)}
    {o : Except Error IndexerResult} {windowBlocks : ℕ} (hanswered : Answered env h)
    (hblock : ∀ e ∈ h, block ≤ e.1.ledger.latestBlock)
    (hp : (indexRecentEvents env windowBlocks).Settles W s h o) :
    env.databaseConfigured = true ∧ ∃ r, o = .ok r ∧ block ≤ r.latestBlock := by
  obtain ⟨t, h', -, rfl, hrest⟩ := Async.settles_statement_bind.mp hp
  have hfirst := hanswered.answers _ List.mem_cons_self
  have hfree : t.indexing = false := hanswered.free _ rfl
  have hscan : ((tryCatch (runScan env windowBlocks) fun error => do
        let _ ← setIndexing false
        throw error : Promise IndexerResult) >>= fun result => do
      let _ ← setIndexing false
      pure result).Delivers (AnswersAt env block) fun r => block ≤ r.latestBlock := by
    apply ((runScan_delivers hfirst.initialized windowBlocks).recover _).bind
    exact fun r hr => .pending fun _ _ => .fulfilled hr
  simp only [hfree, Bool.false_eq_true, ↓reduceIte] at hrest
  refine ⟨hfirst.configured, hscan.settles hrest fun e he => ?_⟩
  have hmem := List.mem_cons_of_mem (t, { t with indexing := true }) he
  exact ⟨hanswered.answers e hmem, hblock e hmem⟩

end

/-! ### The rows of the owed logs -/

/-- No scan has been made yet. -/
structure Fresh (first : ℕ) (w : World) : Prop where
  rows : chainReadModel w = []
  memory : w.indexedEventKeys = []
  inOrder : InOrder w.ledger
  distinct : DistinctKeys first w.ledger

theorem Fresh.gapless {first : ℕ} {w : World} (h : Fresh first w) : Gapless first w := by
  have hblocks : storedBlocks w = [] := by rw [storedBlocks, h.rows, List.filterMap_nil]
  constructor
  · exact h.inOrder
  · exact h.distinct
  · rw [h.memory]
    exact List.nil_subset _
  · simp [hblocks]
  · simp [hblocks]

theorem owedKeys_nodup {env : Environment} {first last : ℕ} {w : World}
    (h : DistinctKeys first w.ledger) : (owedKeys env first last w).Nodup := by
  unfold owedKeys loggedEvents
  split
  · refine h.sublist (List.Sublist.map _ ?_)
    rw [List.filter_filter]
    apply List.monotone_filter_right
    simp +contextual
  · simp

theorem Gapless.owedKeys_subperm {env : Environment} {first last : ℕ} {w : World}
    (h : Gapless first w)
    (hsettled : 0 < last → ∃ latestBlock, last ≤ latestBlock ∧ SettledTo first w latestBlock) :
    (owedKeys env first last w).Subperm (storedKeys w) := by
  refine List.subperm_of_subset (owedKeys_nodup h.distinct) fun key hkey => ?_
  obtain ⟨e, he, rfl⟩ := List.mem_map.mp hkey
  obtain ⟨hlogged, hproject⟩ := List.mem_filter.mp he
  unfold loggedEvents at hlogged
  split at hlogged
  · obtain ⟨hmem, hrange⟩ := List.mem_filter.mp hlogged
    obtain ⟨hfirst, hlast⟩ := of_decide_eq_true hrange
    obtain ⟨latestBlock, hle, hsettled⟩ := hsettled ((h.inOrder.genesis e hmem).trans_le hlast)
    exact hsettled.recorded e ⟨hmem, hproject, hfirst⟩ (hlast.trans hle)
  · cases hlogged

/-! ### Runs without end -/

/-- Again and again, a scan is made that is answered to its end. -/
def KeepsScanning (env : Environment) (run : ℕ → Config ScanCall World Error IndexerResult) : Prop :=
  ∀ n, ∃ m, n ≤ m ∧ ∃ i th, (run n).threads i = none ∧ (run m).threads i = some th ∧
    th.promise.Settled ∧ Answered env ((run m).history i)

/-- Each log from the block `first` on gets a row of its own. -/
def LosesNothing (env : Environment) (first : ℕ)
    (run : ℕ → Config ScanCall World Error IndexerResult) : Prop :=
  ∀ n, ∃ m, n ≤ m ∧
    (owedKeys env first (run n).shared.ledger.latestBlock (run m).shared).Subperm
      (storedKeys (run m).shared)

theorem latestBlock_discipline (env : Environment) (first : ℕ) :
    (indexerSystem env (GrowsDistinct first) fun _ => True).Discipline (fun _ => True)
      fun s t => s.ledger.latestBlock ≤ t.ledger.latestBlock where
  body call := (indexRecentEvents_indexes env call.windowBlocks).mono fun s t hst => by
    obtain ⟨rows, indexing, keys, rfl⟩ := hst
    exact le_refl _
  interfere s t _ hst := by
    rcases hst with hout | ⟨-, rfl⟩
    · exact hout.ledger.1.latest
    · exact le_refl s.ledger.latestBlock
  keep _ _ _ _ := trivial

theorem losesNothing {env : Environment} {first : ℕ} {w₀ : World}
    {run : ℕ → Config ScanCall World Error IndexerResult} (h₀ : Fresh first w₀)
    (hrun : (indexerSystem env (GrowsDistinct first) fun _ => True).Endless
      (System.Admits (ByLiving (Careful first))) w₀ run)
    (hscans : KeepsScanning env run) : LosesNothing env first run := by
  intro n
  obtain ⟨m, hnm, i, ⟨call, promise⟩, hnone, hi, hsettled, hanswered⟩ := hscans n
  refine ⟨m, hnm, ?_⟩
  have hreach := hrun.reach m
  have D := latestBlock_discipline env first
  obtain ⟨-, hlater⟩ := (hrun.leads hnm).found_later
    (G := fun w => (run n).shared.ledger.latestBlock ≤ w.ledger.latestBlock)
    (fun c k c' hc hstep hle => by
      rcases D.step trivial hc hstep with ⟨hsame, -⟩ | hgrown
      · rwa [hsame]
      · exact hle.trans hgrown)
    (hrun.reach n) (le_refl _) hnone
  obtain ⟨o, rfl⟩ := Async.Settled.eq_ofExcept hsettled
  obtain ⟨s, hs⟩ := D.settles trivial hreach hi
  obtain ⟨hconfigured, r, rfl, hreports⟩ := hanswered.reports hlater hs
  cases haddresses : env.besu.any fun besu => contractAddresses besu ≠ [] with
  | false =>
    have hnone : ∀ last w, loggedEvents env first last w = [] := fun last w =>
      if_neg (haddresses ▸ Bool.false_ne_true)
    rw [owedKeys, hnone]
    exact List.nil_subperm
  | true =>
    obtain ⟨hgapless, hdone⟩ := (loss_invariant haddresses).reach hconfigured h₀.gapless hreach
    exact hgapless.owedKeys_subperm fun hpos =>
      ⟨r.latestBlock, hreports, hdone i call r hi (hpos.trans_le hreports)⟩

/-! ### Two chains -/

section

variable {env : Environment} {chain : Ledger → Ledger → Prop} {crash : World → Prop}
  {C : Config ScanCall World Error IndexerResult → Move ScanCall World → Prop}
  {P : Config ScanCall World Error IndexerResult → Prop}

/-- When a scan that is answered can follow each configuration with `P`, scans follow each other
without end. -/
theorem exists_scanning {w₀ : World} {c : Config ScanCall World Error IndexerResult}
    (h₀ : (indexerSystem env chain crash).Leads C (Config.initial w₀) c) (hc : P c)
    (hnext : ∀ c, (indexerSystem env chain crash).Reach C w₀ c → P c →
      ∃ i c' th, c.threads i = none ∧ (indexerSystem env chain crash).Leads C c c' ∧ P c' ∧
        c'.threads i = some th ∧ th.promise.Settled ∧ Answered env (c'.history i)) :
    ∃ run, (indexerSystem env chain crash).Endless C w₀ run ∧ run 1 = c ∧
      (∀ n, P (run (n + 1))) ∧ KeepsScanning env run := by
  obtain ⟨run, hrun, hone, hruns⟩ := System.exists_endless (Q := fun c c' => ∃ i th, c.threads i = none ∧
    c'.threads i = some th ∧ th.promise.Settled ∧ Answered env (c'.history i)) h₀ hc
    (fun c hreach hP => by
      obtain ⟨i, c', th, hi, hlead, hP', hrest⟩ := hnext c hreach hP
      exact ⟨c', hlead, hP', i, th, hi, hrest⟩)
  refine ⟨run, hrun, hone, fun n => (hruns n).1, fun n => ?_⟩
  cases n with
  | zero =>
    obtain ⟨i, th, -, hth, hrest⟩ := (hruns 0).2
    refine ⟨2, Nat.zero_le 2, i, th, ?_, hth, hrest⟩
    rw [hrun.start]
    rfl
  | succ n => exact ⟨n + 2, Nat.le_succ _, (hruns n).2⟩

end

/-- What a scan that stores nothing leaves as it is. -/
def standing (w : World) : ℕ × Bool × Bool × Ledger × List AuditEventRow :=
  (w.restarts, w.databaseFails, w.dedupReadsFail, w.ledger, w.auditEvents)

def knowing (w : World) (keys : List String) : World := { w with indexedEventKeys := keys }

/-- A scan of `w` finds nothing to store when it knows `keys`, and then knows `keys'`. -/
structure Settles (windowBlocks : ℕ) (w : World) (keys keys' : List String) (r : IndexerResult) :
    Prop where
  result : ((indexRecentEvents sampleEnvironment windowBlocks).runAlone (knowing w keys)).2 = .ok r
  last : Async.lastState (knowing w keys)
    ((indexRecentEvents sampleEnvironment windowBlocks).runAlone (knowing w keys)).1 = knowing w keys'
  found : ∃ n, ((indexRecentEvents sampleEnvironment windowBlocks).runAlone (knowing w keys)).1.map
    (fun e => standing e.1) = List.replicate n (standing w)

section

variable {chain : Ledger → Ledger → Prop} {w₀ w : World} {windowBlocks : ℕ}
  {P : ScanCall → List (World × World) → World → Prop} {c : Config ScanCall World Error IndexerResult}

/-- Everything answers in `w`. -/
structure Answering (w : World) : Prop where
  standing : standing w = (0, false, false, w.ledger, w.auditEvents)
  free : w.indexing = false
  node : w.ledger.refusal = none

theorem Settles.leads {keys keys' : List String} {r : IndexerResult}
    (hw : Settles windowBlocks w keys keys' r)
    (hanswering : Answering w) (hP : ∀ h s, standing s = standing w → P ⟨0, windowBlocks⟩ h s)
    (hc : (indexerSystem sampleEnvironment chain fun _ => True).Reach (System.Admits (ByLiving P)) w₀ c)
    (hkeys : c.shared = knowing w keys) :
    ∃ i c', c.threads i = none ∧
      (indexerSystem sampleEnvironment chain fun _ => True).Leads (System.Admits (ByLiving P)) c c' ∧
      c'.shared = knowing w keys' ∧ c'.Returned i ⟨0, windowBlocks⟩ r ∧
      Answered sampleEnvironment (c'.history i) := by
  obtain ⟨hresult, hlast, n, hmap⟩ := hw
  have hfound : ∀ e ∈ ((indexRecentEvents sampleEnvironment windowBlocks).runAlone
      (knowing w keys)).1, standing e.1 = standing w := by
    intro e he
    apply List.eq_of_mem_replicate (n := n)
    rw [← hmap]
    exact List.mem_map_of_mem he
  have hfree : ∀ e ∈ ((indexRecentEvents sampleEnvironment windowBlocks).runAlone
      (knowing w keys)).1.head?, e.1.indexing = false := by
    intro e he
    obtain rfl := Option.some.inj he
    exact hanswering.free
  have hstart : ∀ (c : Config ScanCall World Error IndexerResult) i,
      System.Admits (ByLiving P) c (.start i ⟨0, windowBlocks⟩) := fun _ _ => trivial
  have hadmits : ∀ (c : Config ScanCall World Error IndexerResult) i p,
      c.threads i = some ⟨⟨0, windowBlocks⟩, p⟩ → standing c.shared = standing w →
        System.Admits (ByLiving P) c (.run i) := by
    intro c i p hp hs th hth
    obtain rfl : th = ⟨⟨0, windowBlocks⟩, p⟩ := by simpa [hp, eq_comm] using hth
    exact ⟨(congrArg Prod.fst (hs.trans hanswering.standing)).symm, hP _ _ hs⟩
  have hsettles :=
    Async.settles_alone (indexRecentEvents sampleEnvironment windowBlocks) (knowing w keys)
  generalize (indexRecentEvents sampleEnvironment windowBlocks).runAlone (knowing w keys) = alone
    at hsettles hresult hlast hfound hfree
  rw [hresult, ← hkeys] at hsettles
  have hbody : ((indexerSystem sampleEnvironment chain fun _ => True).body ⟨0, windowBlocks⟩).Settles
      Eq c.shared alone.1 (.ok r) := hsettles
  obtain ⟨i, c', hi, hlead, hshared, hthread, hhistory⟩ :=
    hc.leads_call (D := fun s => standing s = standing w) hstart hadmits hbody hfound
  refine ⟨i, c', hi, hlead, ?_, hthread, ?_⟩
  · rw [hshared, hkeys, hlast]
  rw [hhistory]
  constructor
  · exact hfree
  · intro e he
    have hsame := (hfound e he).trans hanswering.standing
    simp only [Blockchain.standing, Prod.mk.injEq] at hsame
    obtain ⟨-, hdatabase, hdedup, hledger, -⟩ := hsame
    exact ⟨rfl, rfl, hdatabase, hdedup, hledger ▸ hanswering.node⟩

/-- Scans of a world that stands still follow each other without end. -/
theorem exists_standing_run {K : List String → Prop}
    (h₀ : (indexerSystem sampleEnvironment chain fun _ => True).Leads (System.Admits (ByLiving P))
      (Config.initial w₀) c) (hc : ∃ keys, K keys ∧ c.shared = knowing w keys)
    (hanswering : Answering w)
    (hw : ∀ keys, K keys → ∃ keys' r, K keys' ∧ Settles windowBlocks w keys keys' r)
    (hP : ∀ h s, standing s = standing w → P ⟨0, windowBlocks⟩ h s) :
    ∃ run, (indexerSystem sampleEnvironment chain fun _ => True).Endless
        (System.Admits (ByLiving P)) w₀ run ∧ run 1 = c ∧
      (∀ n, ∃ keys, K keys ∧ (run (n + 1)).shared = knowing w keys) ∧
      KeepsScanning sampleEnvironment run := by
  apply exists_scanning (P := fun c => ∃ keys, K keys ∧ c.shared = knowing w keys) h₀ hc
  rintro c hreach ⟨keys, hK, hkeys⟩
  obtain ⟨keys', r, hK', hsettles⟩ := hw keys hK
  obtain ⟨i, c', hi, hlead, hshared, hreturned, hanswered⟩ :=
    hsettles.leads hanswering hP hreach hkeys
  exact ⟨i, c', _, hi, hlead, ⟨keys', hK', hshared⟩, hreturned, trivial, hanswered⟩

end

def withLedger (ledger : Ledger) (w : World) : World := { w with ledger := ledger }

theorem leads_withLedger {env : Environment} {chain : Ledger → Ledger → Prop} {crash : World → Prop}
    {P : ScanCall → List (World × World) → World → Prop}
    {c₀ c : Config ScanCall World Error IndexerResult} {ledger : Ledger}
    (h₀ : (indexerSystem env chain crash).Leads (System.Admits P) c₀ c)
    (h : chain c.shared.ledger ledger) : (indexerSystem env chain crash).Leads (System.Admits P) c₀
      { c with shared := withLedger ledger c.shared } := by
  refine h₀.tail ⟨.interfere (withLedger ledger), trivial, .interfere (withLedger ledger) (.inl ?_)⟩
  exact ⟨rfl, rfl, rfl, rfl, h⟩

/-! ### A log that is skipped -/

def quietWorld : World := { sampleWorld with ledger := { events := [], latestBlock := 5 } }

/-- The log comes while nobody scans, and by the next scan the chain is 994 blocks further. -/
def skippedWorld : World :=
  { quietWorld with ledger := { events := [mintEvent "0x01" "1" 6], latestBlock := 1000 } }

theorem fresh_quietWorld : Fresh 0 quietWorld := by
  constructor
  · rfl
  · rfl
  · constructor
    · exact List.Pairwise.nil
    · exact fun e he => absurd he List.not_mem_nil
    · exact fun e he => absurd he List.not_mem_nil
  · decide

theorem grows_skippedWorld : GrowsDistinct 0 quietWorld.ledger skippedWorld.ledger := by
  refine ⟨⟨by decide, ⟨_, rfl, by decide⟩, ?_⟩, by decide⟩
  constructor
  · exact List.pairwise_singleton _ _
  · decide
  · decide

theorem settles_quietWorld : Settles 500 quietWorld [] [] ⟨0, 0, 5⟩ := ⟨rfl, rfl, 10, rfl⟩

theorem settles_skippedWorld : Settles 500 skippedWorld [] [] ⟨0, 0, 1000⟩ := ⟨rfl, rfl, 10, rfl⟩

/-- The first scan finds nothing up to the block 5. Every later one begins at the block 500. -/
theorem log_skipped : ∃ run, Fresh 0 quietWorld ∧
    (indexerSystem sampleEnvironment (GrowsDistinct 0) fun _ => True).Endless
      (System.Admits (ByLiving fun _ _ _ => True)) quietWorld run ∧
    (∃ i, (run 1).Returned i ⟨0, 500⟩ { indexed := 0, skipped := 0, latestBlock := 5 }) ∧
    KeepsScanning sampleEnvironment run ∧ ¬ LosesNothing sampleEnvironment 0 run := by
  have hinit : (indexerSystem sampleEnvironment (GrowsDistinct 0) fun _ => True).Reach
      (System.Admits (ByLiving fun _ _ _ => True)) quietWorld (Config.initial quietWorld) := .init
  obtain ⟨i, c, hi, hlead, hc, hreturned, -⟩ :=
    settles_quietWorld.leads ⟨rfl, rfl, rfl⟩ (fun _ _ _ => trivial) hinit rfl
  have hgrows : GrowsDistinct 0 c.shared.ledger skippedWorld.ledger := by
    rw [hc]
    exact grows_skippedWorld
  obtain ⟨run, hrun, hone, hworld, hscans⟩ := exists_standing_run (w := skippedWorld)
    (leads_withLedger hlead hgrows) ⟨[], rfl, by rw [hc]; rfl⟩ ⟨rfl, rfl, rfl⟩
    (K := fun keys => keys = []) (by rintro _ rfl; exact ⟨[], _, rfl, settles_skippedWorld⟩)
    fun _ _ _ => trivial
  refine ⟨run, fresh_quietWorld, hrun, ⟨i, ?_⟩, hscans, fun hall => ?_⟩
  · rw [hone]
    exact hreturned
  obtain ⟨m, hm, hsubperm⟩ := hall 1
  obtain ⟨m, rfl⟩ : ∃ k, m = k + 1 := ⟨m - 1, by omega⟩
  obtain ⟨keys, -, hkeys⟩ := hworld m
  obtain ⟨keys₁, -, hkeys₁⟩ := hworld 0
  rw [hkeys, hkeys₁] at hsubperm
  have howed : "0x01:NFTMinted:1" ∈ storedKeys (knowing skippedWorld keys) :=
    hsubperm.subset (List.mem_singleton.mpr rfl)
  exact absurd howed List.not_mem_nil

/-! ### A chain whose logs are all found -/

/-- One transaction mints two tokens. -/
def mintingWorld : World :=
  { sampleWorld with
    ledger := { events := [mintEvent "0x01" "1" 1, mintEvent "0x01" "2" 1], latestBlock := 1 } }

def firstScan : Option (Config ScanCall World Error IndexerResult) :=
  (indexerSystem sampleEnvironment (GrowsDistinct 0) fun _ => True).exec
    (System.Admits (ByLiving (Careful 0))) (Config.initial mintingWorld)
    (.start 0 ⟨0, 2⟩ :: List.replicate 18 (.run 0))

def laterLedger : Ledger := { mintingWorld.ledger with latestBlock := 5 }

def indexedWorld : World :=
  { mintingWorld with
    ledger := laterLedger
    auditEvents := mintingWorld.ledger.events.filterMap project }

theorem inOrder_laterLedger : InOrder laterLedger := by
  constructor
  · decide
  · decide
  · decide

theorem grows_laterLedger : GrowsDistinct 0 mintingWorld.ledger laterLedger :=
  ⟨⟨by decide, ⟨[], rfl, by decide⟩, inOrder_laterLedger⟩, by decide⟩

theorem fresh_mintingWorld : Fresh 0 mintingWorld := by
  constructor
  · rfl
  · rfl
  · constructor
    · decide
    · decide
    · decide
  · decide

theorem settles_indexedWorld (keys : List String) :
    Settles 2 indexedWorld keys (keys ++ storedKeys indexedWorld) ⟨0, 0, 5⟩ :=
  ⟨rfl, rfl, 10, rfl⟩

theorem recorded_indexedWorld {s : World} (hs : standing s = standing indexedWorld) :
    ∀ e ∈ s.ledger.events, Recorded s e := by
  simp only [standing, Prod.mk.injEq] at hs
  obtain ⟨-, -, -, hledger, haudit⟩ := hs
  have hkeys : storedKeys s = storedKeys indexedWorld := by
    simp only [storedKeys, chainReadModel, haudit]
  rw [hledger]
  intro e he
  rw [Recorded, hkeys]
  revert e
  decide

theorem losesNothing_sample : ∃ run,
    (indexerSystem sampleEnvironment (GrowsDistinct 0) fun _ => True).Endless
      (System.Admits (ByLiving (Careful 0))) mintingWorld run ∧
    KeepsScanning sampleEnvironment run ∧ LosesNothing sampleEnvironment 0 run := by
  have hfirst : firstScan.isSome := by rfl
  have hlead := System.exec_leads (System.harmless_of_all_ofCall rfl) (Option.some_get hfirst).symm
  obtain ⟨run, hrun, -, -, hscans⟩ := exists_standing_run (w := indexedWorld) (K := fun _ => True)
    (leads_withLedger hlead grows_laterLedger)
    ⟨_, trivial, rfl⟩ ⟨rfl, rfl, rfl⟩ (fun keys _ => ⟨_, _, trivial, settles_indexedWorld keys⟩)
    (fun h s hs => by
      have hall := recorded_indexedWorld hs
      exact ⟨fun _ e he _ _ _ _ => hall e he, fun _ _ e he _ _ _ => hall e he⟩)
  exact ⟨run, hrun, hscans, losesNothing fresh_mintingWorld hrun hscans⟩

end Sampraan.Blockchain
