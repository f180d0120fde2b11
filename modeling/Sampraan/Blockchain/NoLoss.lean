import Sampraan.Blockchain.NoDuplicates

/-! Which logs of the contracts get a row of their own in the chain read model. -/

namespace Sampraan.Blockchain

open Backend Library

/-! ### The chain and what is owed -/

structure InOrder (ledger : Ledger) : Prop where
  sorted : ledger.events.Pairwise fun e e' => e.blockNumber ≤ e'.blockNumber
  latest : ∀ e ∈ ledger.events, e.blockNumber ≤ ledger.latestBlock
  genesis : ∀ e ∈ ledger.events, 0 < e.blockNumber

/-- Later blocks bring later logs, and no block is taken back. -/
structure Grows (ledger ledger' : Ledger) : Prop where
  latest : ledger.latestBlock ≤ ledger'.latestBlock
  events : ∃ new, ledger'.events = ledger.events ++ new ∧
    ∀ e ∈ new, ledger.latestBlock < e.blockNumber
  inOrder : InOrder ledger'

/-- A log from the block `first` on whose name is in the table of the indexer. -/
def Owed (first : ℕ) (w : World) (e : ChainEvent) : Prop :=
  e ∈ w.ledger.events ∧ (project e).isSome = true ∧ first ≤ e.blockNumber

def Recorded (w : World) (e : ChainEvent) : Prop := eventKey e ∈ storedKeys w

/-- The keys of the logs that `getEvents` would return up to the block `last`. -/
def owedKeys (env : Environment) (first last : ℕ) (w : World) : List String :=
  ((loggedEvents env first last w).filter fun e => (project e).isSome).map eventKey

/-- No two logs from `first` on share an event key. -/
def DistinctKeys (first : ℕ) (ledger : Ledger) : Prop :=
  ((ledger.events.filter fun e => (project e).isSome ∧ first ≤ e.blockNumber).map eventKey).Nodup

instance (first : ℕ) (ledger : Ledger) : Decidable (DistinctKeys first ledger) :=
  inferInstanceAs (Decidable (List.Nodup _))

/-! ### The condition on a run -/

/-- No log without a row lies from the checkpoint on and below the window of the scan. -/
def RangeCovers (first window latestBlock : ℕ) (w : World) : Prop :=
  ∀ e ∈ w.ledger.events, (project e).isSome = true → first ≤ e.blockNumber →
    e.blockNumber + window < latestBlock → (∀ b ∈ checkpoint w, b ≤ e.blockNumber) → Recorded w e

/-- A transaction has a row only if each of its logs has. -/
def Whole (first : ℕ) (w : World) : Prop :=
  ∀ e ∈ w.ledger.events, (project e).isSome = true → first ≤ e.blockNumber →
    e.transactionHash ∈ storedHashes w → Recorded w e

instance (w : World) (e : ChainEvent) : Decidable (Recorded w e) :=
  inferInstanceAs (Decidable (_ ∈ _))

instance (first window latestBlock : ℕ) (w : World) :
    Decidable (RangeCovers first window latestBlock w) :=
  inferInstanceAs (Decidable (∀ e ∈ w.ledger.events, _))

instance (first : ℕ) (w : World) : Decidable (Whole first w) :=
  inferInstanceAs (Decidable (∀ e ∈ w.ledger.events, _))

/-- The latest block in the state that the last statement has found. -/
def headRead (h : List (World × World)) : ℕ :=
  (h.getLast?.map fun e => e.1.ledger.latestBlock).getD 0

/-- The third statement of a scan reads the checkpoint, its ninth at the latest the transaction
hashes; in between nobody else writes rows. -/
def Careful (first : ℕ) (call : ScanCall) (h : List (World × World)) (w : World) : Prop :=
  (h.length = 2 → RangeCovers first call.windowBlocks (headRead h) w) ∧
    (0 < h.length → h.length ≤ 8 → Whole first w)

instance (first : ℕ) (call : ScanCall) (h : List (World × World)) (w : World) :
    Decidable (Careful first call h w) :=
  inferInstanceAs (Decidable (_ ∧ _))

/-- How far a scan in its stage has come. -/
def ScanLink (_ : ScanCall) (h : List (World × World)) : ScanStage → Prop
  | .waiting => h = []
  | .begun => h.length = 1
  | .scanning latestBlock => h.length = 2 ∧ headRead h = latestBlock
  | .ranged _ _ => h.length = 3
  | .seeding _ _ _ => h.length = 4
  | .seeded _ _ => 0 < h.length ∧ h.length ≤ 5
  | .probed _ _ => 0 < h.length ∧ h.length ≤ 6
  | .fetched _ _ => 0 < h.length ∧ h.length ≤ 7
  | .keyed _ _ _ => 0 < h.length ∧ h.length ≤ 8
  | _ => True

section

variable {env : Environment} {s t : World} {φ φ' : ScanPhase} {first : ℕ}

theorem ScanLink.step {h : List (World × World)} (hlink : ScanLink φ.call h φ.stage)
    (hstep : ScanStep env φ s t φ') : ScanLink φ.call (h ++ [(s, t)]) φ'.stage := by
  cases hstep with
  | refuse hs => trivial
  | begin hs =>
    have hnil : h = [] := hlink
    subst hnil
    rfl
  | release => trivial
  | abort hbusy => trivial
  | work hwork =>
    cases hwork with
    | head =>
      have hlength : h.length = 1 := hlink
      exact ⟨by simp [hlength], by simp [headRead]⟩
    | range block hblock =>
      have hlength : h.length = 2 := hlink.1
      simp [ScanLink, hlength]
    | seed keys hkeys =>
      have hlength : h.length = 3 := hlink
      simp [ScanLink, hlength]
    | unseeded =>
      have hlength : h.length = 3 := hlink
      simp [ScanLink, hlength]
    | remember =>
      have hlength : h.length = 4 := hlink
      simp [ScanLink, hlength]
    | probe =>
      have hlength : h.length ≤ 5 := hlink.2
      simp only [ScanLink, List.length_append, List.length_singleton]
      omega
    | unaddressed hnone =>
      have hlength : h.length ≤ 5 := hlink.2
      simp only [ScanLink, List.length_append, List.length_singleton]
      omega
    | fetch =>
      have hlength : h.length ≤ 6 := hlink.2
      simp only [ScanLink, List.length_append, List.length_singleton]
      omega
    | keys keys hkeys =>
      have hlength : h.length ≤ 7 := hlink.2
      simp only [ScanLink, List.length_append, List.length_singleton]
      omega
    | _ => trivial

/-! ### What a scan relies on -/

def storedBlocks (w : World) : List ℕ := (chainReadModel w).filterMap AuditEventRow.blockNumber

structure Gapless (first : ℕ) (w : World) : Prop where
  inOrder : InOrder w.ledger
  distinct : DistinctKeys first w.ledger
  memory : w.indexedEventKeys ⊆ storedKeys w
  blocks : ∀ b ∈ storedBlocks w, b ≤ w.ledger.latestBlock
  below : ∀ e, Owed first w e → ∀ b ∈ storedBlocks w, e.blockNumber < b → Recorded w e

/-- Every log below the block `fromBlock` has its row. -/
structure Behind (first : ℕ) (w : World) (latestBlock fromBlock : ℕ) : Prop where
  latest : latestBlock ≤ w.ledger.latestBlock
  range : fromBlock ≤ latestBlock
  recorded : ∀ e, Owed first w e → e.blockNumber < fromBlock → Recorded w e

/-- Every log up to the block `latestBlock` has its row or is still to come. -/
structure Remaining (first : ℕ) (w : World) (latestBlock : ℕ) (events : List ChainEvent) : Prop where
  latest : latestBlock ≤ w.ledger.latestBlock
  logged : ∀ e ∈ events, e ∈ w.ledger.events ∧ e.blockNumber ≤ latestBlock
  sorted : events.Pairwise fun e e' => e.blockNumber ≤ e'.blockNumber
  rest : ∀ e, Owed first w e → e.blockNumber ≤ latestBlock → Recorded w e ∨ e ∈ events

/-- What the scan passes over has its row. -/
structure PassesKnown (first : ℕ) (w : World) (seen : Seen) (events : List ChainEvent) : Prop where
  keys : seen.persistedKeys ⊆ storedKeys w
  hashes : ∀ e ∈ events, Owed first w e → e.transactionHash ∈ seen.legacyTxHashes → Recorded w e

structure SettledTo (first : ℕ) (w : World) (latestBlock : ℕ) : Prop where
  latest : latestBlock ≤ w.ledger.latestBlock
  recorded : ∀ e, Owed first w e → e.blockNumber ≤ latestBlock → Recorded w e

def ScanFacts (first : ℕ) (w : World) : ScanStage → Prop
  | .scanning latestBlock => latestBlock ≤ w.ledger.latestBlock
  | .ranged latestBlock fromBlock => Behind first w latestBlock fromBlock
  | .seeding latestBlock fromBlock keys => Behind first w latestBlock fromBlock ∧ keys ⊆ storedKeys w
  | .seeded latestBlock fromBlock => Behind first w latestBlock fromBlock
  | .probed latestBlock fromBlock => Behind first w latestBlock fromBlock
  | .fetched latestBlock events => Remaining first w latestBlock events
  | .keyed latestBlock events keys => Remaining first w latestBlock events ∧ keys ⊆ storedKeys w
  | .projecting seen events => Remaining first w seen.latestBlock events ∧ PassesKnown first w seen events
  | .checked seen event row events => Remaining first w seen.latestBlock (event :: events) ∧
      PassesKnown first w seen (event :: events) ∧ project event = some row
  | .stored seen event events => Remaining first w seen.latestBlock events ∧
      PassesKnown first w seen events ∧ Recorded w event
  | _ => True

/-! ### What stays so -/

/-- `t` has the rows of `s`, and of the logs up to the latest block of `s` the same ones. -/
structure Later (s t : World) : Prop where
  keys : storedKeys s ⊆ storedKeys t
  latest : s.ledger.latestBlock ≤ t.ledger.latestBlock
  events : s.ledger.events ⊆ t.ledger.events
  old : ∀ e ∈ t.ledger.events, e.blockNumber ≤ s.ledger.latestBlock → e ∈ s.ledger.events

namespace Later

theorem of_eq (hkeys : storedKeys s ⊆ storedKeys t) (hledger : t.ledger = s.ledger) : Later s t := by
  constructor
  · exact hkeys
  · rw [hledger]
  · rw [hledger]
    exact List.Subset.refl _
  · intro e he _
    rwa [hledger] at he

theorem of_grows (hkeys : storedKeys s ⊆ storedKeys t) (hgrows : Grows s.ledger t.ledger) :
    Later s t := by
  obtain ⟨new, hevents, hnew⟩ := hgrows.events
  constructor
  · exact hkeys
  · exact hgrows.latest
  · rw [hevents]
    exact List.subset_append_left _ _
  · intro e he hle
    rw [hevents] at he
    rcases List.mem_append.mp he with hold | hlate
    · exact hold
    · have hlt := hnew e hlate
      omega

variable (h : Later s t) {e : ChainEvent}

include h

theorem recorded (he : Recorded s e) : Recorded t e := h.keys he

theorem owed (he : Owed first t e) (hle : e.blockNumber ≤ s.ledger.latestBlock) : Owed first s e :=
  ⟨h.old e he.1 hle, he.2⟩

theorem behind {latestBlock fromBlock : ℕ} (hs : Behind first s latestBlock fromBlock) :
    Behind first t latestBlock fromBlock := by
  constructor
  · exact hs.latest.trans h.latest
  · exact hs.range
  · intro e he hlt
    exact h.recorded (hs.recorded e (h.owed he (hlt.le.trans (hs.range.trans hs.latest))) hlt)

theorem remaining {latestBlock : ℕ} {events : List ChainEvent}
    (hs : Remaining first s latestBlock events) : Remaining first t latestBlock events := by
  constructor
  · exact hs.latest.trans h.latest
  · intro e he
    exact ⟨h.events (hs.logged e he).1, (hs.logged e he).2⟩
  · exact hs.sorted
  · intro e he hle
    exact (hs.rest e (h.owed he (hle.trans hs.latest)) hle).imp_left h.recorded

theorem passesKnown {seen : Seen} {events : List ChainEvent} {latestBlock : ℕ}
    (hremaining : Remaining first s latestBlock events) (hs : PassesKnown first s seen events) :
    PassesKnown first t seen events := by
  constructor
  · exact List.Subset.trans hs.keys h.keys
  · intro e he howed hhash
    have hle := (hremaining.logged e he).2.trans hremaining.latest
    exact h.recorded (hs.hashes e he (h.owed howed hle) hhash)

theorem settledTo {latestBlock : ℕ} (hs : SettledTo first s latestBlock) :
    SettledTo first t latestBlock := by
  constructor
  · exact hs.latest.trans h.latest
  · intro e he hle
    exact h.recorded (hs.recorded e (h.owed he (hle.trans hs.latest)) hle)

theorem scanFacts {stage : ScanStage} (hs : ScanFacts first s stage) : ScanFacts first t stage := by
  cases stage with
  | scanning latestBlock =>
    have hlatest : latestBlock ≤ s.ledger.latestBlock := hs
    exact hlatest.trans h.latest
  | ranged latestBlock fromBlock => exact h.behind hs
  | seeding latestBlock fromBlock keys => exact ⟨h.behind hs.1, List.Subset.trans hs.2 h.keys⟩
  | seeded latestBlock fromBlock => exact h.behind hs
  | probed latestBlock fromBlock => exact h.behind hs
  | fetched latestBlock events => exact h.remaining hs
  | keyed latestBlock events keys => exact ⟨h.remaining hs.1, List.Subset.trans hs.2 h.keys⟩
  | projecting seen events => exact ⟨h.remaining hs.1, h.passesKnown hs.1 hs.2⟩
  | checked seen event row events =>
    exact ⟨h.remaining hs.1, h.passesKnown hs.1 hs.2.1, hs.2.2⟩
  | stored seen event events =>
    exact ⟨h.remaining hs.1, h.passesKnown hs.1 hs.2.1, h.recorded hs.2.2⟩
  | _ => trivial

end Later

/-! ### One statement of a scan -/

theorem mem_storedBlocks_of_checkpoint {w : World} {b : ℕ} (h : checkpoint w = some b) :
    b ∈ storedBlocks w := List.max?_mem h

theorem storedBlocks_store {event : ChainEvent} {row : AuditEventRow} (h : project event = some row) :
    storedBlocks { s with auditEvents := s.auditEvents ++ [row] } =
      storedBlocks s ++ [event.blockNumber] := by
  have hblock : row.blockNumber = some event.blockNumber := by
    obtain ⟨action, -, rfl⟩ := Option.map_eq_some_iff.mp h
    rfl
  simp [storedBlocks, chainReadModel_store h, hblock]

theorem Remaining.tail {w : World} {latestBlock : ℕ} {event : ChainEvent} {events : List ChainEvent}
    (h : Remaining first w latestBlock (event :: events))
    (hevent : Owed first w event → Recorded w event) : Remaining first w latestBlock events := by
  constructor
  · exact h.latest
  · exact fun e he => h.logged e (List.mem_cons_of_mem _ he)
  · exact h.sorted.of_cons
  · intro e he hle
    rcases h.rest e he hle with hrecorded | hmem
    · exact .inl hrecorded
    · rcases List.mem_cons.mp hmem with rfl | hlater
      · exact .inl (hevent he)
      · exact .inr hlater

theorem PassesKnown.tail {w : World} {seen : Seen} {event : ChainEvent} {events : List ChainEvent}
    (h : PassesKnown first w seen (event :: events)) : PassesKnown first w seen events :=
  ⟨h.keys, fun e he => h.hashes e (List.mem_cons_of_mem _ he)⟩

/-- What a scan passes over needs no row or has one. -/
theorem recorded_of_passedOver {seen : Seen} {event : ChainEvent} {events : List ChainEvent}
    (hgapless : Gapless first s) (hknown : PassesKnown first s seen (event :: events))
    (hpass : PassedOver seen event s) (howed : Owed first s event) : Recorded s event := by
  rcases hpass with hmemory | hkey | hnone | hhash
  · exact hgapless.memory hmemory
  · exact hknown.keys hkey
  · simp [Owed, hnone] at howed
  · exact hknown.hashes event List.mem_cons_self howed hhash

/-- The range begins at a block below which nothing is missing. -/
theorem Gapless.behind (h : Gapless first s) {window latestBlock : ℕ} {block : Option ℕ}
    (hlatest : latestBlock ≤ s.ledger.latestBlock) (hblock : block = none ∨ block = checkpoint s)
    (hcovers : RangeCovers first window latestBlock s) :
    Behind first s latestBlock (firstBlock block window latestBlock) := by
  constructor
  · exact hlatest
  · unfold firstBlock
    split <;> omega
  · intro e howed hlt
    by_cases habove : ∃ b ∈ storedBlocks s, e.blockNumber < b
    · obtain ⟨b, hb, hbe⟩ := habove
      exact h.below e howed b hb hbe
    have hnot : ∀ b ∈ storedBlocks s, b ≤ e.blockNumber := by
      intro b hb
      by_contra hgt
      exact habove ⟨b, hb, by omega⟩
    have hcheckpoint : ∀ b ∈ checkpoint s, b ≤ e.blockNumber :=
      fun b hb => hnot b (mem_storedBlocks_of_checkpoint hb)
    have hwindow : e.blockNumber + window < latestBlock := by
      cases hread : block with
      | none =>
        simp only [firstBlock, hread] at hlt
        omega
      | some b =>
        have hb : b ≤ e.blockNumber := by
          apply hcheckpoint
          rcases hblock with hnone | hsome
          · cases hread.symm.trans hnone
          · exact hsome.symm.trans hread
        simp only [firstBlock, hread] at hlt
        omega
    exact hcovers e howed.1 howed.2.1 howed.2.2 hwindow hcheckpoint

/-- The events that a scan fetches are the ones it still owes. -/
theorem Behind.remaining {latestBlock fromBlock : ℕ} (h : Behind first s latestBlock fromBlock)
    (horder : InOrder s.ledger) :
    Remaining first s latestBlock (s.ledger.events.filter fun e =>
      fromBlock ≤ e.blockNumber ∧ e.blockNumber ≤ latestBlock) := by
  constructor
  · exact h.latest
  · intro e he
    have hmem := List.mem_filter.mp he
    exact ⟨hmem.1, (of_decide_eq_true hmem.2).2⟩
  · exact horder.sorted.filter _
  · intro e howed hle
    by_cases hlt : e.blockNumber < fromBlock
    · exact .inl (h.recorded e howed hlt)
    · exact .inr (List.mem_filter.mpr ⟨howed.1, decide_eq_true ⟨by omega, hle⟩⟩)

theorem Gapless.of_eq (h : Gapless first s) (hrows : chainReadModel t = chainReadModel s)
    (hledger : t.ledger = s.ledger) (hmemory : t.indexedEventKeys ⊆ storedKeys s) :
    Gapless first t := by
  have hkeys : storedKeys t = storedKeys s := by rw [storedKeys, hrows, storedKeys]
  have hblocks : storedBlocks t = storedBlocks s := by rw [storedBlocks, hrows, storedBlocks]
  constructor
  · rw [hledger]
    exact h.inOrder
  · rw [hledger]
    exact h.distinct
  · rwa [hkeys]
  · rw [hblocks, hledger]
    exact h.blocks
  · intro e howed b hb hlt
    rw [Owed, hledger] at howed
    rw [hblocks] at hb
    rw [Recorded, hkeys]
    exact h.below e howed b hb hlt

/-- The events come in the order of their blocks, so none below the new checkpoint is left out. -/
theorem Gapless.store {latestBlock : ℕ} {event : ChainEvent} {row : AuditEventRow}
    {events : List ChainEvent} (h : Gapless first s)
    (hremaining : Remaining first s latestBlock (event :: events)) (hrow : project event = some row) :
    Gapless first { s with auditEvents := s.auditEvents ++ [row] } := by
  have hkeys : storedKeys s ⊆ storedKeys { s with auditEvents := s.auditEvents ++ [row] } := by
    rw [storedKeys_store hrow]
    exact List.subset_append_left _ _
  have hlater : Later s { s with auditEvents := s.auditEvents ++ [row] } := .of_eq hkeys rfl
  constructor
  · exact h.inOrder
  · exact h.distinct
  · exact List.Subset.trans h.memory hkeys
  · intro b hb
    rw [storedBlocks_store hrow] at hb
    rcases List.mem_append.mp hb with hold | hlast
    · exact h.blocks b hold
    · obtain rfl := List.mem_singleton.mp hlast
      exact (hremaining.logged event List.mem_cons_self).2.trans hremaining.latest
  · intro e howed b hb hlt
    rw [storedBlocks_store hrow] at hb
    rcases List.mem_append.mp hb with hold | hlast
    · exact hlater.recorded (h.below e howed b hold hlt)
    obtain rfl := List.mem_singleton.mp hlast
    have hle := (hremaining.logged event List.mem_cons_self).2
    rcases hremaining.rest e howed (by omega) with hrecorded | hmem
    · exact hlater.recorded hrecorded
    · rcases List.mem_cons.mp hmem with rfl | hrest
      · exact absurd hlt (lt_irrefl _)
      · have hsorted := (List.pairwise_cons.mp hremaining.sorted).1 e hrest
        omega

theorem loss_work (haddresses : (env.besu.any fun besu => contractAddresses besu ≠ []) = true)
    {h : List (World × World)} (hcareful : Careful first φ.call h s)
    (hlink : ScanLink φ.call h φ.stage) (hgapless : Gapless first s)
    (hfacts : ScanFacts first s φ.stage) (hwork : ScanWork env φ s t φ') :
    Gapless first t ∧ ScanFacts first t φ'.stage ∧ Later s t := by
  have hlogged : ∀ fromBlock latestBlock, loggedEvents env fromBlock latestBlock s =
      s.ledger.events.filter fun e => fromBlock ≤ e.blockNumber ∧ e.blockNumber ≤ latestBlock :=
    fun fromBlock latestBlock => if_pos haddresses
  have hsame : Later s s := .of_eq (List.Subset.refl _) rfl
  cases hwork with
  | fail hbusy => exact ⟨hgapless, trivial, hsame⟩
  | head => exact ⟨hgapless, le_refl s.ledger.latestBlock, hsame⟩
  | range block hblock =>
    obtain ⟨hlength, rfl⟩ := hlink
    exact ⟨hgapless, hgapless.behind hfacts hblock (hcareful.1 hlength), hsame⟩
  | seed keys hkeys => exact ⟨hgapless, ⟨hfacts, hkeys⟩, hsame⟩
  | unseeded => exact ⟨hgapless, hfacts, hsame⟩
  | @remember call latestBlock fromBlock keys =>
    have hlater : Later s { s with indexedEventKeys := s.indexedEventKeys ++ keys } :=
      .of_eq (List.Subset.refl _) rfl
    exact ⟨hgapless.of_eq rfl rfl (List.append_subset.mpr ⟨hgapless.memory, hfacts.2⟩),
      hlater.behind hfacts.1, hlater⟩
  | probe => exact ⟨hgapless, hfacts, hsame⟩
  | unaddressed hnone =>
    rw [hlogged] at hnone
    exact ⟨hgapless, hnone ▸ Behind.remaining hfacts hgapless.inOrder, hsame⟩
  | @fetch call latestBlock fromBlock =>
    rw [hlogged]
    exact ⟨hgapless, Behind.remaining hfacts hgapless.inOrder, hsame⟩
  | keys keys hkeys => exact ⟨hgapless, ⟨hfacts, hkeys⟩, hsame⟩
  | hashes hashes hhashes hall =>
    have hwhole := hcareful.2 hlink.1 hlink.2
    exact ⟨hgapless, ⟨hfacts.1, hfacts.2,
      fun e _ howed hhash => hwhole e howed.1 howed.2.1 howed.2.2 (hhashes hhash)⟩, hsame⟩
  | pass hpass =>
    exact ⟨hgapless, ⟨hfacts.1.tail (recorded_of_passedOver hgapless hfacts.2 hpass), hfacts.2.tail⟩,
      hsame⟩
  | check hpass hrow => exact ⟨hgapless, ⟨hfacts.1, hfacts.2, hrow⟩, hsame⟩
  | @store call seen event row events =>
    obtain ⟨hremaining, hknown, hrow⟩ := hfacts
    have hkeys : storedKeys { s with auditEvents := s.auditEvents ++ [row] } =
        storedKeys s ++ [eventKey event] := storedKeys_store hrow
    have hlater : Later s { s with auditEvents := s.auditEvents ++ [row] } :=
      .of_eq (by rw [hkeys]; exact List.subset_append_left _ _) rfl
    have hrecorded : Recorded { s with auditEvents := s.auditEvents ++ [row] } event := by
      rw [Recorded, hkeys]
      exact List.mem_append_right _ List.mem_cons_self
    exact ⟨hgapless.store hremaining hrow, ⟨(hlater.remaining hremaining).tail fun _ => hrecorded,
      (hlater.passesKnown hremaining hknown).tail, hrecorded⟩, hlater⟩
  | confirm => exact ⟨hgapless, hfacts, hsame⟩
  | @note call seen event events =>
    obtain ⟨hremaining, hknown, hrecorded⟩ := hfacts
    have hlater : Later s { s with indexedEventKeys := s.indexedEventKeys ++ [eventKey event] } :=
      .of_eq (List.Subset.refl _) rfl
    have hmemory : s.indexedEventKeys ++ [eventKey event] ⊆ storedKeys s :=
      List.append_subset.mpr ⟨hgapless.memory, List.cons_subset.mpr ⟨hrecorded, List.nil_subset _⟩⟩
    exact ⟨hgapless.of_eq rfl rfl hmemory,
      ⟨hlater.remaining hremaining, hlater.passesKnown hremaining hknown⟩, hlater⟩

/-! ### The runs -/

/-- The chain grows, and never repeats an event key from `first` on. -/
def GrowsDistinct (first : ℕ) (ledger ledger' : Ledger) : Prop :=
  Grows ledger ledger' ∧ DistinctKeys first ledger'

theorem Gapless.outside (h : Gapless first s) (hout : Outside (GrowsDistinct first) s t) :
    Gapless first t ∧ Later s t := by
  have hkeys : storedKeys t = storedKeys s := by rw [storedKeys, hout.rows, storedKeys]
  have hblocks : storedBlocks t = storedBlocks s := by rw [storedBlocks, hout.rows, storedBlocks]
  have hlater : Later s t := .of_grows (by rw [hkeys]; exact List.Subset.refl _) hout.ledger.1
  refine ⟨?_, hlater⟩
  constructor
  · exact hout.ledger.1.inOrder
  · exact hout.ledger.2
  · rw [hout.indexedEventKeys, hkeys]
    exact h.memory
  · rw [hblocks]
    exact fun b hb => (h.blocks b hb).trans hlater.latest
  · intro e howed b hb hlt
    rw [hblocks] at hb
    have hle := h.blocks b hb
    exact hlater.recorded (h.below e (hlater.owed howed (by omega)) b hb hlt)

theorem loss_invariant (haddresses : (env.besu.any fun besu => contractAddresses besu ≠ []) = true) :
    ScanInvariant env (GrowsDistinct first) (fun _ => True) (Careful first) ScanLink (Gapless first)
      (ScanFacts first) (SettledTo first) where
  enter _ := rfl
  link _ _ _ _ _ hlink hstep := hlink.step hstep
  begin _ _ := trivial
  work _ _ _ _ _ hcareful hlink hgapless hfacts hwork := by
    obtain ⟨hrows, hfacts, hlater⟩ := loss_work haddresses hcareful hlink hgapless hfacts hwork
    exact ⟨hrows, hfacts, fun _ => hlater.settledTo⟩
  settle s seen _ hfacts := by
    refine ⟨hfacts.1.latest, fun e howed hle => ?_⟩
    exact (hfacts.1.rest e howed hle).resolve_right List.not_mem_nil
  guard s indexing := by
    have hlater : Later s { s with indexing := indexing } := .of_eq (List.Subset.refl _) rfl
    exact ⟨fun h => h.of_eq rfl rfl h.memory, fun _ => hlater.settledTo⟩
  outside s t hout h := by
    obtain ⟨hrows, hlater⟩ := h.outside hout
    exact ⟨hrows, fun _ => hlater.scanFacts, fun _ => hlater.settledTo⟩
  restart s _ h := by
    have hlater : Later s (restart s) := .of_eq (List.Subset.refl _) rfl
    exact ⟨h.of_eq rfl rfl (List.nil_subset _), fun _ => hlater.settledTo⟩

end

end Sampraan.Blockchain
