import Sampraan.Governance.MintAuthority

/-!
What an EXECUTED mint request stands for: an asset row with the token that the
chain holds, and the hash of the transaction that minted it. An execution that
ends anywhere leaves less than that, and the next one goes other ways.
-/

namespace Sampraan.Governance.Mint

open Backend Library

/-! ### How the tables and the ledger grow -/

/-- What the ledger holds for an asset it holds for good. -/
def LedgerGrows (s t : World) : Prop :=
  ∀ assetId record, s.ledger.find assetId = some record → ∃ record',
    t.ledger.find assetId = some record' ∧ record'.tokenId = record.tokenId ∧
      record'.mintedBy = record.mintedBy

structure AssetEvolves (a a' : AssetRow) : Prop where
  id : a'.id = a.id
  assetId : a'.assetId = a.assetId

/-- Mint requests and asset rows stay, and so does what the ledger holds. -/
structure Grows (s t : World) : Prop where
  mints : Table.Evolves MintRequestRow.id MintEvolves s.mintRequests t.mintRequests
  assets : Table.Evolves AssetRow.id AssetEvolves s.assets t.assets
  ledger : LedgerGrows s t

structure UniqueRows (w : World) : Prop where
  mints : UniqueMints w
  assets : Table.UniqueKey AssetRow.id w.assets

theorem LedgerGrows.of_eq {s t : World} (h : t.ledger = s.ledger) : LedgerGrows s t := by
  intro assetId record hr
  exact ⟨record, h ▸ hr, rfl, rfl⟩

theorem LedgerGrows.trans {s t u : World} (h : LedgerGrows s t) (h' : LedgerGrows t u) :
    LedgerGrows s u := by
  intro assetId record hr
  obtain ⟨record', hr', htoken, hhash⟩ := h assetId record hr
  obtain ⟨record'', hr'', htoken', hhash'⟩ := h' assetId record' hr'
  exact ⟨record'', hr'', htoken'.trans htoken, hhash'.trans hhash⟩

theorem AssetEvolves.refl (a : AssetRow) : AssetEvolves a a := ⟨rfl, rfl⟩

theorem AssetEvolves.trans {a a' a'' : AssetRow} (h : AssetEvolves a a') (h' : AssetEvolves a' a'') :
    AssetEvolves a a'' :=
  ⟨h'.id.trans h.id, h'.assetId.trans h.assetId⟩

variable {env : Environment} {w₀ : World} {c : MintConfig} {s t : World} {h : List (World × World)}
  {requestId assetId transactionHash tokenId uuid : String} {p : Prepared}

theorem ledgerGrows_register (besu : BesuConfig) :
    LedgerGrows s (Besu.submitIn besu p.registration s).2 := by
  intro assetId record hr
  refine ⟨record, ?_, rfl, rfl⟩
  unfold Besu.submitIn Ledger.submit
  cases Besu.answer besu p.registration s.ledger with
  | some message => exact hr
  | none =>
    have hfind :=
      Ledger.find_register s.ledger p.request.assetId p.custodianWallet assetId
    rw [hr, Option.some_or] at hfind
    exact hfind

theorem insertAsset_eq {row : AssetRow} (ht : insertAsset row s = some t) :
    t = { s with assets := s.assets ++ [row] } ∧
      ∀ a ∈ s.assets, a.id ≠ row.id ∧ a.assetId ≠ row.assetId := by
  simp only [insertAsset, Option.ite_none_left_eq_some, Option.some.injEq] at ht
  obtain ⟨hfresh, rfl⟩ := ht
  obtain ⟨-, hfresh⟩ := not_or.mp hfresh
  refine ⟨rfl, fun a ha => ?_⟩
  simpa using mt (fun hclash => List.any_eq_true.mpr ⟨a, ha, hclash⟩) hfresh

theorem ExecutionWrites.assets {user : Option ℕ} {input : RequestId}
    (hw : ExecutionWrites env user uuid input h s t) :
    Table.Evolves AssetRow.id AssetEvolves s.assets t.assets := by
  cases hw with
  | register => exact .of_eq AssetEvolves.refl rfl
  | existing => exact .of_eq AssetEvolves.refl rfl
  | insert p transactionHash _ _ ht =>
    obtain ⟨rfl, hfresh⟩ := insertAsset_eq ht
    exact .append AssetEvolves.refl fun a ha => (hfresh a ha).1
  | setToken => exact .update AssetEvolves.refl (fun _ => rfl) fun a _ => ⟨rfl, rfl⟩
  | mark => exact .of_eq AssetEvolves.refl rfl

theorem ExecutionWrites.ledger {user : Option ℕ} {input : RequestId}
    (hw : ExecutionWrites env user uuid input h s t) : LedgerGrows s t := by
  cases hw with
  | register p _ => exact ledgerGrows_register p.besu
  | insert p transactionHash _ _ ht =>
    obtain ⟨rfl, -⟩ := insertAsset_eq ht
    exact .of_eq rfl
  | _ => exact .of_eq rfl

theorem MintCall.Effect.grows {call : MintCall} (he : call.Effect env h s t) : Grows s t := by
  have hmints := he.evolves.mints
  rcases he with hk | hw
  · exact ⟨hmints, .of_eq AssetEvolves.refl hk.assets, .of_eq hk.ledger⟩
  cases call with
  | request user uuid input =>
    obtain ⟨actor, owner, custodian, -, ht⟩ := hw
    simp only [insertMintRequest, Option.ite_none_left_eq_some, Option.some.injEq] at ht
    obtain ⟨-, rfl⟩ := ht
    exact ⟨hmints, .of_eq AssetEvolves.refl rfl, .of_eq rfl⟩
  | decide user input =>
    obtain ⟨actor, request, -, rfl⟩ := hw
    exact ⟨hmints, .of_eq AssetEvolves.refl rfl, .of_eq rfl⟩
  | execute user uuid input =>
    exact ⟨hmints, ExecutionWrites.assets hw, ExecutionWrites.ledger hw⟩

/-- The rest of the world leaves mint requests alone, and keeps the asset rows with their tokens
and the ledger's assets. -/
structure KeepsMinted (s t : World) : Prop where
  mintRequests : t.mintRequests = s.mintRequests
  unique : Table.UniqueKey AssetRow.id s.assets → Table.UniqueKey AssetRow.id t.assets
  assets : ∀ a ∈ s.assets, ∃ a' ∈ t.assets, a'.id = a.id ∧ a'.assetId = a.assetId ∧
    a'.tokenId = a.tokenId
  ledger : LedgerGrows s t

theorem KeepsMinted.grows (hk : KeepsMinted s t) : Grows s t := by
  refine ⟨.of_eq MintEvolves.refl hk.mintRequests, ⟨hk.unique, fun a ha => ?_⟩, hk.ledger⟩
  obtain ⟨a', ha', hid, hasset, -⟩ := hk.assets a ha
  exact ⟨a', ha', hid, hasset⟩

theorem completion_discipline (env : Environment) :
    (mintSystem env KeepsMinted).Discipline UniqueRows Grows where
  body call := (mint_recalls env KeepsMinted call).obeys fun _ _ _ _ he => he.grows
  interfere _ _ _ h := h.grows
  keep _ _ hs h := ⟨h.mints.unique hs.mints, h.assets.unique hs.assets⟩

theorem ledger_grows (hs : Relation.ReflTransGen Grows s t) : LedgerGrows s t := by
  induction hs with
  | refl => exact .of_eq rfl
  | tail _ hstep ih => exact ih.trans hstep.ledger

/-! ### What a call has done, in the present state -/

section

variable {C : MintConfig → Move MintCall World → Prop} (hw₀ : UniqueRows w₀)
  (hc : (mintSystem env KeepsMinted).Reach C w₀ c) {i : ℕ}

include hw₀ hc

theorem ledger_of_history {e : World × World} (he : e ∈ c.history i) :
    LedgerGrows e.1 c.shared ∧ LedgerGrows e.2 c.shared := by
  obtain ⟨-, hstep, hlater⟩ :=
    (completion_discipline env).log hw₀ hc _ (Config.mem_history.mp he)
  exact ⟨hstep.ledger.trans (ledger_grows hlater), ledger_grows hlater⟩

/-- The registered asset is on the chain, minted by the call's transaction. -/
theorem registered_now (hr : Registered p transactionHash (c.history i)) :
    ∃ record, c.shared.ledger.find p.request.assetId = some record ∧
      record.mintedBy = transactionHash := by
  obtain ⟨e, he, h₁, hconfirmed⟩ := hr.mem
  obtain ⟨record, hfind, hhash⟩ := Besu.find_of_registered p.besu hconfirmed
  obtain ⟨record', hfind', -, hhash'⟩ := (ledger_of_history hw₀ hc he).2 _ _ hfind
  exact ⟨record', hfind', hhash'.trans hhash⟩

theorem token_now (ht : TokenRead p transactionHash tokenId (c.history i)) :
    ∃ record, c.shared.ledger.find p.request.assetId = some record ∧
      record.mintedBy = transactionHash ∧ tokenId = toString record.tokenId := by
  obtain ⟨c₁, s, t, call, hran, hregistered, htoken⟩ := hc.passed ht
  obtain ⟨record, hfind, hhash⟩ := registered_now hw₀ hran.reach hregistered
  have hshared : c₁.shared = s := hran.shared
  rw [hshared] at hfind
  obtain ⟨record', hfind', htoken', hhash'⟩ :=
    (ledger_of_history hw₀ hc (Config.mem_history.mpr hran.mem_log)).1 _ _ hfind
  refine ⟨record', hfind', hhash'.trans hhash, ?_⟩
  rw [htoken', htoken, hfind]
  rfl

/-- The row that the call has inserted is still there. -/
theorem inserted_now {e : World × World} (he : e ∈ c.history i)
    (hi : insertAsset (p.asset uuid) e.1 = some e.2) :
    ∃ a ∈ c.shared.assets, a.id = uuid ∧ a.assetId = p.request.assetId := by
  obtain ⟨-, -, hlater⟩ := (completion_discipline env).log hw₀ hc _ (Config.mem_history.mp he)
  have hrow : p.asset uuid ∈ e.2.assets := by
    rw [(insertAsset_eq hi).1]
    simp
  obtain ⟨a, ha, hevolves⟩ := Table.exists_evolved AssetEvolves.refl
    (fun _ _ _ => AssetEvolves.trans) (fun s t (h : Grows s t) => h.assets) hlater hrow
  exact ⟨a, ha, hevolves.id, hevolves.assetId⟩

theorem request_now {request : MintRequestRow}
    (hr : RequestRead requestId (c.history i) request) :
    ∃ r ∈ c.shared.mintRequests, MintEvolves request r := by
  obtain ⟨e, he, hf⟩ := hr
  obtain ⟨-, hlater⟩ := (completion_discipline env).recalled hw₀ hc he
  exact Table.exists_evolved MintEvolves.refl (fun _ _ _ => MintEvolves.trans)
    (fun s t (h : Grows s t) => h.mints) hlater (List.mem_of_find?_eq_some hf)

end

/-! ### What EXECUTED stands for -/

/-- The chain holds the asset, minted by the transaction, and a row of the asset has its token. -/
def Holds (assetId transactionHash : String) (w : World) : Prop :=
  ∃ record, w.ledger.find assetId = some record ∧ record.mintedBy = transactionHash ∧
    ∃ a ∈ w.assets, a.assetId = assetId ∧ a.tokenId = some (toString record.tokenId)

/-- An EXECUTED request has the hash of the transaction that minted the token. -/
def Complete (requestId : String) (w : World) : Prop :=
  ∀ r ∈ w.mintRequests, r.id = requestId → r.status = .executed →
    ∃ transactionHash, r.transactionHash = some transactionHash ∧
      Holds r.assetId transactionHash w

theorem Holds.of_ledger (hh : Holds assetId transactionHash s) (hl : LedgerGrows s t)
    (ha : ∀ a ∈ s.assets, a.assetId = assetId → ∀ record, s.ledger.find assetId = some record →
      a.tokenId = some (toString record.tokenId) →
        ∃ a' ∈ t.assets, a'.assetId = assetId ∧ a'.tokenId = a.tokenId) :
    Holds assetId transactionHash t := by
  obtain ⟨record, hfind, hhash, a, hmem, hasset, htoken⟩ := hh
  obtain ⟨record', hfind', htoken', hhash'⟩ := hl _ _ hfind
  obtain ⟨a', hmem', hasset', hsame⟩ := ha a hmem hasset record hfind htoken
  exact ⟨record', hfind', hhash'.trans hhash, a', hmem', hasset', by rw [hsame, htoken, htoken']⟩

theorem Holds.of_assets (hh : Holds assetId transactionHash s) (hl : LedgerGrows s t)
    (ha : s.assets ⊆ t.assets) : Holds assetId transactionHash t :=
  hh.of_ledger hl fun a hmem hasset _ _ _ => ⟨a, ha hmem, hasset, rfl⟩

/-- No statement takes away what an EXECUTED request stands for. -/
theorem holds_step (hw₀ : UniqueRows w₀) {C : MintConfig → Move MintCall World → Prop}
    (hc : (mintSystem env KeepsMinted).Reach C w₀ c) {i : ℕ} {call : MintCall}
    (hh : Holds assetId transactionHash c.shared)
    (he : call.Effect env (c.history i) c.shared t) : Holds assetId transactionHash t := by
  have hgrows := he.grows.ledger
  rcases he with hk | hw
  · exact hh.of_assets hgrows (by rw [hk.assets]; exact List.Subset.refl _)
  cases call with
  | request user uuid input =>
    obtain ⟨actor, owner, custodian, -, ht⟩ := hw
    simp only [insertMintRequest, Option.ite_none_left_eq_some, Option.some.injEq] at ht
    obtain ⟨-, rfl⟩ := ht
    exact hh.of_assets hgrows (List.Subset.refl _)
  | decide user input =>
    obtain ⟨actor, request, -, rfl⟩ := hw
    exact hh.of_assets hgrows (List.Subset.refl _)
  | execute user uuid input =>
    cases hw with
    | insert p transactionHash _ _ ht =>
      obtain ⟨rfl, -⟩ := insertAsset_eq ht
      exact hh.of_assets hgrows (List.subset_append_left _ _)
    | setToken p transactionHash tokenId _ htoken hinserted =>
      -- a row with the same id is the one that the call has inserted
      apply hh.of_ledger hgrows
      intro a hmem hasset record hfind hrow
      refine ⟨_, Table.mem_update.mpr ⟨a, hmem, rfl⟩, ?_⟩
      split
      · rename_i hid
        obtain ⟨e, he, h₁, hi⟩ := hinserted.mem
        obtain ⟨a', hmem', hid', hasset'⟩ := inserted_now hw₀ hc he hi
        have hunique := ((completion_discipline env).shared_inv hw₀ hc).assets
        obtain rfl : a' = a := hunique.eq hmem' hmem (hid'.trans (beq_iff_eq.mp hid).symm)
        obtain ⟨record', hfind', -, rfl⟩ := token_now hw₀ hc htoken
        rw [← hasset', hasset, hfind, Option.some.injEq] at hfind'
        exact ⟨hasset, by rw [hrow, hfind']⟩
      · exact ⟨hasset, rfl⟩
    | _ => exact hh.of_assets hgrows (List.Subset.refl _)

theorem KeepsMinted.holds (hk : KeepsMinted s t) (hh : Holds assetId transactionHash s) :
    Holds assetId transactionHash t := by
  apply hh.of_ledger hk.ledger
  intro a hmem hasset _ _ _
  obtain ⟨a', hmem', -, hasset', htoken⟩ := hk.assets a hmem
  exact ⟨a', hmem', hasset'.trans hasset, htoken⟩

theorem holds_persists (hw₀ : UniqueRows w₀) {C : MintConfig → Move MintCall World → Prop}
    (hc : (mintSystem env KeepsMinted).Reach C w₀ c) {e : ℕ × World × World} (he : e ∈ c.log)
    (hh : Holds assetId transactionHash e.2.1 ∨ Holds assetId transactionHash e.2.2) :
    Holds assetId transactionHash c.shared := by
  refine hc.persists (mint_recalls env KeepsMinted) ?_ ?_ e he hh
  · intro c i call effect next hc _ _ hh heffect
    exact holds_step hw₀ hc hh heffect
  · intro s t hh hst
    exact KeepsMinted.holds hst hh

/-! ### The runs that complete -/

/-- After a refusal by the node, the call does not find the asset on the chain. -/
def Unregistered (assetId : String) (h : List (World × World)) (s : World) : Prop :=
  (∃ e ∈ h, Refuses e.1 e.2) → s.ledger.refusal = none → s.ledger.find assetId = none

/-- From the confirmation of its transaction until it has read back its asset row, the call meets
no failing database, and until it has inserted that row no other with its id or asset. -/
def Unobstructed (assetId uuid : String) (h : List (World × World)) (s : World) : Prop :=
  ((∃ e ∈ h, Mines e.1 e.2) → (∀ e ∈ h, e.2.assets = e.1.assets) →
    s.databaseFails = false ∧ ∀ a ∈ s.assets, a.id ≠ uuid ∧ a.assetId ≠ assetId) ∧
  ∀ e ∈ h.getLast?.toList, e.1.assets.length < e.2.assets.length → s.databaseFails = false

def Steady (requestId : String) (call : MintCall) (h : List (World × World)) (s : World) : Prop :=
  match call with
  | .execute _ uuid input => input.requestId = requestId → ∀ r ∈ s.mintRequests, r.id = requestId →
      Unregistered r.assetId h s ∧ Unobstructed r.assetId uuid h s
  | _ => True

instance (h : List (World × World)) (s : World) : Decidable (Unregistered assetId h s) := by
  unfold Unregistered
  infer_instance

instance (h : List (World × World)) (s : World) : Decidable (Unobstructed assetId uuid h s) := by
  unfold Unobstructed
  infer_instance

instance (call : MintCall) (h : List (World × World)) (s : World) :
    Decidable (Steady requestId call h s) := by
  unfold Steady
  split <;> infer_instance

section

variable (hw₀ : UniqueRows w₀)
  (hc : (mintSystem env KeepsMinted).Reach (System.Admits (Steady requestId)) w₀ c) {i : ℕ}
  {user : Option ℕ} {promise : Async World Error MintReply}
  (hi : c.threads i = some ⟨.execute user uuid ⟨requestId⟩, promise⟩)
  (hp : p.request.id = requestId)

include hw₀ hc hi hp

omit hc in
/-- Where an earlier statement of the call stood, the condition held of the asset that the call
is about. -/
theorem steady_at {s t : World} {c₁ : MintConfig} {call : MintCall}
    (hran : (mintSystem env KeepsMinted).Ran (System.Admits (Steady requestId)) w₀ c₁ c (i, s, t) call)
    (hr : RequestRead p.request.id (c₁.history i) p.request) :
    Unregistered p.request.assetId (c₁.history i) s ∧
      Unobstructed p.request.assetId uuid (c₁.history i) s := by
  obtain ⟨r, hmem, hevolves⟩ := request_now hw₀ hran.reach hr
  have hshared : c₁.shared = s := hran.shared
  have hsteady := hran.admits
  rw [hran.call_eq hi] at hsteady
  have hfound := hsteady rfl r (hshared ▸ hmem) (hevolves.id.trans hp)
  rwa [hevolves.assetId] at hfound

theorem not_existing (hne : tokenId ≠ "") : ¬ ExistingToken p tokenId (c.history i) := by
  intro he
  obtain ⟨c₁, s, t, call, hran, hrequest, hrefused, hrefusal, htoken⟩ := hc.passed he
  obtain ⟨e, he, -, hrefuses⟩ := hrefused.mem
  have hnone := (steady_at hw₀ hi hp hran hrequest).1 ⟨e, he, hrefuses⟩ hrefusal
  rw [htoken, hnone] at hne
  exact hne rfl

theorem not_createFailed : ¬ CreateFailed p uuid transactionHash (c.history i) := by
  rintro (hrejected | hlost)
  · obtain ⟨c₁, s, t, call, hran, hrequest, hregistered, hunwritten, hnone⟩ := hc.passed hrejected
    obtain ⟨e, he, h₁, hconfirmed⟩ := hregistered.mem
    have hmines : Mines e.1 e.2 := (Besu.Confirmed.confirms hconfirmed).mines
    obtain ⟨hworks, hfresh⟩ :=
      (steady_at hw₀ hi hp hran hrequest).2.1 ⟨e, he, hmines⟩ hunwritten
    simp only [insertAsset, ite_eq_left_iff, reduceCtorEq, imp_false, not_not] at hnone
    rcases hnone with hfails | hclash
    · rw [hworks] at hfails
      cases hfails
    · obtain ⟨a, ha, hclash⟩ := List.any_eq_true.mp hclash
      obtain ⟨hid, hasset⟩ := hfresh a ha
      rcases Bool.or_eq_true_iff.mp hclash with h | h
      · exact hid (beq_iff_eq.mp h)
      · exact hasset (beq_iff_eq.mp h)
  · obtain ⟨c₁, s, t, call, hran, hrequest, ⟨h₁, s₁, t₁, hhistory, hinserted⟩, hgone⟩ := hc.passed hlost
    have hlast : (s₁, t₁) ∈ (c₁.history i).getLast?.toList := by simp [hhistory]
    have hgrown : s₁.assets.length < t₁.assets.length := by
      rw [(insertAsset_eq hinserted).1]
      simp
    have hworks := (steady_at hw₀ hi hp hran hrequest).2.2 _ hlast hgrown
    rcases hgone with hfails | hnone
    · rw [hworks] at hfails
      cases hfails
    · have hmem : (s₁, t₁) ∈ c₁.history i := by simp [hhistory]
      obtain ⟨a, ha, hid, -⟩ := inserted_now hw₀ hran.reach hmem hinserted
      have hshared : c₁.shared = s := hran.shared
      exact List.find?_eq_none.mp hnone a (hshared ▸ ha) (by simp [hid])

/-- When the call marks the request, the chain and the tables hold what the mark says. -/
theorem holds_of_mark (hm : TokenSet p uuid transactionHash tokenId (c.history i) ∨
    CreateFailed p uuid transactionHash (c.history i)) :
    Holds p.request.assetId transactionHash c.shared := by
  rcases hm with hset | hfailed
  · obtain ⟨c₁, s, t, call, hran, htoken, hinserted, rfl⟩ := hc.passed hset
    obtain ⟨record, hfind, hhash, htokenId⟩ := token_now hw₀ hran.reach htoken
    obtain ⟨e, he, -, hinsert⟩ := hinserted.mem
    obtain ⟨a, ha, hid, hasset⟩ := inserted_now hw₀ hran.reach he hinsert
    have hshared : c₁.shared = s := hran.shared
    rw [hshared] at hfind ha
    refine holds_persists hw₀ hc hran.mem_log (.inr ⟨record, hfind, hhash, ?_⟩)
    refine ⟨_, Table.mem_update.mpr ⟨a, ha, rfl⟩, ?_⟩
    rw [if_pos (beq_iff_eq.mpr hid)]
    exact ⟨hasset, congrArg some htokenId⟩
  · exact absurd hfailed (not_createFailed hw₀ hc hi hp)

end

/-! ### Runs -/

theorem marked_row {id tokenId transactionHash : String} {r : MintRequestRow}
    (hr : r ∈ (markMintIn id tokenId transactionHash s).mintRequests) :
    r ∈ s.mintRequests ∨ r.id = id ∧ r.transactionHash = some transactionHash := by
  obtain ⟨r₀, hr₀, rfl⟩ := Table.mem_update.mp hr
  split
  · exact .inr ⟨beq_iff_eq.mp ‹_›, rfl⟩
  · exact .inl hr₀

/-- An EXECUTED row was there before, or a statement of an execution marks it. -/
theorem MintCall.Effect.executed_row {call : MintCall} (he : call.Effect env h s t)
    {r : MintRequestRow} (hr : r ∈ t.mintRequests) (hexecuted : r.status = .executed) :
    r ∈ s.mintRequests ∨ ∃ user uuid p tokenId,
      call = .execute user uuid ⟨r.id⟩ ∧ RequestRead r.id h p.request ∧
        (tokenId ≠ "" ∧ ExistingToken p tokenId h ∨
          ∃ transactionHash, r.transactionHash = some transactionHash ∧
            (TokenSet p uuid transactionHash tokenId h ∨ CreateFailed p uuid transactionHash h)) := by
  rcases he with hk | hw
  · exact .inl (hk.mintRequests ▸ hr)
  cases call with
  | request user uuid input =>
    obtain ⟨actor, owner, custodian, -, ht⟩ := hw
    simp only [insertMintRequest, Option.ite_none_left_eq_some, Option.some.injEq] at ht
    obtain ⟨-, rfl⟩ := ht
    rcases List.mem_append.mp hr with hr | hr
    · exact .inl hr
    · rw [List.mem_singleton.mp hr] at hexecuted
      cases hexecuted
  | decide user input =>
    obtain ⟨actor, request, -, rfl⟩ := hw
    obtain ⟨r₀, hr₀, heq⟩ := Table.mem_update.mp hr
    split at heq
    · rw [heq] at hexecuted
      cases hdecision : input.decision <;> simp [decided, hdecision, MintDecision.status] at hexecuted
    · exact .inl (heq ▸ hr₀)
  | execute user uuid input =>
    cases hw with
    | existing p tokenId hp hne htoken =>
      apply (marked_row hr).imp_right
      rintro ⟨hid, -⟩
      rw [hid]
      exact ⟨user, uuid, p, tokenId, rfl, hp.requestRead, .inl ⟨hne, htoken⟩⟩
    | mark p transactionHash tokenId hp _ hmark =>
      apply (marked_row hr).imp_right
      rintro ⟨hid, hhash⟩
      rw [hid]
      exact ⟨user, uuid, p, tokenId, rfl, hp.requestRead, .inr ⟨transactionHash, hhash, hmark⟩⟩
    | insert p transactionHash _ _ ht =>
      rw [(insertAsset_eq ht).1] at hr
      exact .inl hr
    | _ => exact .inl hr

theorem complete_step (hw₀ : UniqueRows w₀)
    (hc : (mintSystem env KeepsMinted).Reach (System.Admits (Steady requestId)) w₀ c) {i : ℕ}
    {call : MintCall} {promise : Async World Error MintReply}
    (hi : c.threads i = some ⟨call, promise⟩) (hcomplete : Complete requestId c.shared)
    (he : call.Effect env (c.history i) c.shared t) : Complete requestId t := by
  intro r' hr' hid hexecuted
  rcases he.executed_row hr' hexecuted with hold | ⟨user, uuid, p, tokenId, rfl, hread, hmark⟩
  · obtain ⟨transactionHash, hhash, hholds⟩ := hcomplete r' hold hid hexecuted
    exact ⟨transactionHash, hhash, holds_step hw₀ hc hholds he⟩
  subst hid
  have hp : p.request.id = r'.id := hread.id_eq
  rcases hmark with ⟨hne, hexisting⟩ | ⟨transactionHash, hhash, hmark⟩
  · exact absurd hexisting (not_existing hw₀ hc hi hp hne)
  · have hholds := holds_step hw₀ hc (holds_of_mark hw₀ hc hi hp hmark) he
    obtain ⟨r, hr, hevolves⟩ := request_now hw₀ hc hread
    obtain ⟨r'', hr'', hevolves'⟩ := he.grows.mints.rows r hr
    have hunique : UniqueMints t := he.grows.mints.unique
      ((completion_discipline env).shared_inv hw₀ hc).mints
    obtain rfl : r'' = r' := hunique.eq hr'' hr' (by rw [hevolves'.id, hevolves.id, hp])
    exact ⟨transactionHash, hhash, by rwa [hevolves'.assetId, hevolves.assetId]⟩

theorem complete_interfere (hcomplete : Complete requestId s) (hk : KeepsMinted s t) :
    Complete requestId t := by
  intro r hr hid hexecuted
  rw [hk.mintRequests] at hr
  obtain ⟨transactionHash, hhash, hholds⟩ := hcomplete r hr hid hexecuted
  exact ⟨transactionHash, hhash, hk.holds hholds⟩

/-- The request is complete whenever it is EXECUTED, and its hash is never overwritten. -/
structure Completed (requestId : String) (c : MintConfig) : Prop where
  complete : Complete requestId c.shared
  kept : ∀ e ∈ c.log, ∀ r ∈ e.2.1.mintRequests, r.id = requestId → r.status = .executed →
    ∃ r' ∈ c.shared.mintRequests, r'.id = requestId ∧ r'.transactionHash = r.transactionHash

def completedRun : Option MintConfig :=
  (mintSystem mintEnvironment KeepsMinted).exec (System.Admits (Steady "mint"))
    (Config.initial mintWorld) mintMoves

/-- The first execution crashes once its registration is confirmed, and the second goes on. -/
def crashRun : Option MintConfig :=
  (mintSystem mintEnvironment KeepsMinted).exec (fun _ _ => True) (Config.initial mintWorld)
    (System.sequence 0
      [(requestMint, 11), (approveMint, 7), (executeMint "row", 10), (executeMint "retried", 11)])

/-- The first execution stops right before its transaction and goes on after the second. -/
def overlapRun : Option MintConfig :=
  (mintSystem mintEnvironment KeepsMinted).exec (fun _ _ => True) (Config.initial mintWorld)
    (System.sequence 0
        [(requestMint, 11), (approveMint, 7), (executeMint "late", 7), (executeMint "row", 18)] ++
      List.replicate 3 (.run 2))

end Sampraan.Governance.Mint
