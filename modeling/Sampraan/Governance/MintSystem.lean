import Sampraan.Governance.Mint

/-!
The minting procedures as one system: which statements write mint requests and
asset rows or register an asset, and what their calls have done by then.
-/

namespace Sampraan.Governance.Mint

open Backend Library
open Library.Async (Passed passed_now)
open CryptoAssurance (Actor)
open Transfer (matchesScope)

/-! ### What a call has found -/

def RequestRead (requestId : String) (h : List (World × World)) (request : MintRequestRow) : Prop :=
  ∃ e ∈ h, e.1.mintRequests.find? (·.id == requestId) = some request

structure Requests (user : Option ℕ) (input : RequestInput) (h : List (World × World))
    (actor owner custodian : Actor) : Prop where
  actorRead : ActorRead user h actor
  manager : hasRole actor "MANAGER" = true
  ownerRead : TargetRead input.ownerDid h owner
  custodianRead : TargetRead input.custodianDid h custodian
  ownerScope : matchesScope actor owner.identity = true
  custodianScope : matchesScope actor custodian.identity = true

structure Decides (user : Option ℕ) (input : DecideInput) (h : List (World × World)) (actor : Actor)
    (request : MintRequestRow) : Prop where
  actorRead : ActorRead user h actor
  admin : hasRole actor "ADMIN" = true
  requestRead : RequestRead input.requestId h request
  pending : request.status = .pending
  notRequester : request.requestedByIdentityId ≠ actor.identity.id

structure Executes (env : Environment) (user : Option ℕ) (input : RequestId)
    (h : List (World × World)) (p : Prepared) : Prop where
  configured : env.databaseConfigured = true
  actorRead : ActorRead user h p.actor
  admin : hasRole p.actor "ADMIN" = true
  requestRead : RequestRead input.requestId h p.request
  approved : p.request.status = .approved
  notRequester : p.request.requestedByIdentityId ≠ p.actor.identity.id
  ownerRead : ∃ e ∈ h, e.1.identities.find? (·.id == p.request.ownerIdentityId) = some p.owner
  ownerVerified : p.owner.lifecycleState = .verified
  custodianRead :
    ∃ e ∈ h, e.1.identities.find? (·.id == p.request.custodianIdentityId) = some p.custodian
  custodianVerified : p.custodian.lifecycleState = .verified

variable {env : Environment} {h h' : List (World × World)}

theorem RequestRead.mono {requestId : String} {request : MintRequestRow}
    (hr : RequestRead requestId h request) (hh : h ⊆ h') : RequestRead requestId h' request := by
  obtain ⟨e, he, hf⟩ := hr
  exact ⟨e, hh he, hf⟩

theorem RequestRead.id_eq {requestId : String} {request : MintRequestRow}
    (hr : RequestRead requestId h request) : request.id = requestId := by
  obtain ⟨e, -, hf⟩ := hr
  simpa using List.find?_some hf

theorem Requests.mono {user : Option ℕ} {input : RequestInput} {actor owner custodian : Actor}
    (hr : Requests user input h actor owner custodian) (hh : h ⊆ h') :
    Requests user input h' actor owner custodian :=
  ⟨hr.actorRead.mono hh, hr.manager, hr.ownerRead.mono hh, hr.custodianRead.mono hh, hr.ownerScope,
    hr.custodianScope⟩

theorem Executes.mono {user : Option ℕ} {input : RequestId} {p : Prepared}
    (he : Executes env user input h p) (hh : h ⊆ h') : Executes env user input h' p := by
  obtain ⟨eo, heo, hfo⟩ := he.ownerRead
  obtain ⟨ec, hec, hfc⟩ := he.custodianRead
  exact ⟨he.configured, he.actorRead.mono hh, he.admin, he.requestRead.mono hh, he.approved,
    he.notRequester, ⟨eo, hh heo, hfo⟩, he.ownerVerified, ⟨ec, hh hec, hfc⟩, he.custodianVerified⟩

/-! ### What an execution has done -/

section

variable (p : Prepared) (uuid transactionHash tokenId : String)

def Prepared.registration (p : Prepared) : ChainAction :=
  .registerAsset p.request.assetId p.custodianWallet

def Prepared.asset (p : Prepared) (uuid : String) : AssetRow :=
  mintedAsset uuid p.request p.owner p.custodian

def Registered : List (World × World) → Prop :=
  Passed (Besu.Confirmed p.besu p.registration transactionHash)

def TokenRead : List (World × World) → Prop :=
  Passed fun h s _ => Registered p transactionHash h ∧
    tokenId = tokenIdOf (s.ledger.find p.request.assetId)

def Inserted : List (World × World) → Prop :=
  Passed fun _ s t => insertAsset (p.asset uuid) s = some t

def TokenSet : List (World × World) → Prop :=
  Passed fun h s t => TokenRead p transactionHash tokenId h ∧ Inserted p uuid h ∧
    t = setTokenIn uuid tokenId s

/-- `createAsset` gave no row: its insert was rejected, or the select after it. -/
def CreateFailed (h : List (World × World)) : Prop :=
  Passed (fun h s _ => RequestRead p.request.id h p.request ∧ Registered p transactionHash h ∧
    (∀ e ∈ h, e.2.assets = e.1.assets) ∧ insertAsset (p.asset uuid) s = none) h ∨
  Passed (fun h s _ => RequestRead p.request.id h p.request ∧
    (∃ h₁ s₁ t₁, h = h₁ ++ [(s₁, t₁)] ∧ insertAsset (p.asset uuid) s₁ = some t₁) ∧
      (s.databaseFails = true ∨ s.assets.find? (·.id == uuid) = none)) h

/-- The token that the `catch` block has found after the node's refusal. -/
def ExistingToken : List (World × World) → Prop :=
  Passed fun h s _ => RequestRead p.request.id h p.request ∧ Passed (fun _ s t => Refuses s t) h ∧
    s.ledger.refusal = none ∧ tokenId = tokenIdOf (s.ledger.find p.request.assetId)

end

/-! ### The procedures -/

/-- The request that the caller makes. -/
def requested (input : RequestInput) (actor owner custodian : Actor) : CreateMintRequest where
  assetId := input.assetId
  name := input.name
  type := input.type
  classification := input.classification
  description := input.description
  integrityHash := input.integrityHash
  ownerIdentityId := owner.identity.id
  custodianIdentityId := custodian.identity.id
  requestedByIdentityId := actor.identity.id
  requesterScope := some (effectiveScope actor.identity)

/-- The decision that the caller makes. -/
def decided (input : DecideInput) (actor : Actor) : DecideMintRequest where
  id := input.requestId
  status := input.decision
  decidedByIdentityId := actor.identity.id
  decisionReason := input.reason

/-- The step leaves alone what minting is about. -/
structure KeepsMints (s t : World) : Prop where
  mintRequests : t.mintRequests = s.mintRequests
  assets : t.assets = s.assets
  ledger : t.ledger = s.ledger
  identities : t.identities = s.identities
  identityRoles : t.identityRoles = s.identityRoles

theorem KeepsMints.refl (s : World) : KeepsMints s s := ⟨rfl, rfl, rfl, rfl, rfl⟩

theorem KeepsMints.of_audits {s t : World} (h : Audits s t) : KeepsMints s t := by
  obtain ⟨rows, rfl⟩ := h
  exact ⟨rfl, rfl, rfl, rfl, rfl⟩

section

variable {α : Type} {Q : List (World × World) → World → World → Prop}
  (hq : ∀ h s t, Audits s t → Q h s t)

include hq

theorem prepare_yields {user : Option ℕ} {input : RequestId} :
    (prepare env user input).Yields Q (fun p h' => Executes env user input h' p) h := by
  apply requireActor_recalls hq
  intro actor h₁ _ hactor hdb
  apply assertAdmin_recalls
  intro hadmin
  refine found_recalls hq rfl (fun _ => .rejected _ _) fun s request hrequest => ?_
  apply guard_recalls
  intro happroved
  apply guard_recalls
  intro hrequester
  cases env.besu with
  | none => exact .rejected _ _
  | some besu =>
    simp only [getIdentityById, hdb, Bool.not_true, if_neg Bool.false_ne_true]
    apply query_recalls hq
    intro s₂
    apply query_recalls hq
    intro s₃
    cases howner : s₂.identities.find? (·.id == request.ownerIdentityId) with
    | none => exact .rejected _ _
    | some owner =>
      cases hcustodian : s₃.identities.find? (·.id == request.custodianIdentityId) with
      | none => exact .rejected _ _
      | some custodian =>
        dsimp only
        apply guard_recalls
        intro hverified
        obtain ⟨hownerState, hcustodianState⟩ := not_or.mp hverified
        have hexecutes : Executes env user input (h₁ ++ [(s, s)] ++ [(s₂, s₂)] ++ [(s₃, s₃)])
            { besu := besu
              actor := actor
              request := request
              owner := owner
              custodian := custodian
              custodianWallet :=
                deriveIdentityWallet env (besu.privateKey.getD "") custodian.did } :=
          ⟨hdb, hactor.mono (by simp), hadmin, ⟨(s, s), by simp, hrequest⟩, not_not.mp happroved,
            hrequester, ⟨(s₂, s₂), by simp, howner⟩, not_not.mp hownerState,
            ⟨(s₃, s₃), by simp, hcustodian⟩, not_not.mp hcustodianState⟩
        apply resolveOnChainWallet_recalls hq
        intro h₄ hh₄
        exact .fulfilled (hexecutes.mono hh₄)

theorem auditMint_recalls {actor : Actor} {action resourceId reason : String} {k : Unit → Promise α}
    {R : α → List (World × World) → Prop} (hk : ∀ h', h ⊆ h' → (k ()).Yields Q R h') :
    (auditMint env actor action resourceId reason >>= k).Yields Q R h :=
  audit_recalls hq (audit_audits env _ _ _ _ _ _) hk

theorem assertNoOpenRequest_recalls {assetId : String} :
    (assertNoOpenRequest env assetId).Recalls Q h := by
  have hread : (getMintRequestByAssetId env assetId).Recalls Q h := by
    apply read_recalls hq
    · exact .fulfilled trivial
    · exact fun s => .fulfilled trivial
  apply hread.bind
  intro existing h' _
  cases existing with
  | none => exact .fulfilled trivial
  | some existing => exact guard_recalls fun _ => .fulfilled trivial

theorem selectMintRequest_recalls {id : String} : (selectMintRequest id).Recalls Q h :=
  .pending (fun s => hq _ _ _ (.refl s)) fun _ => .fulfilled trivial

theorem request_yields {user : Option ℕ} {uuid : String} {input : RequestInput}
    (hw : ∀ actor owner custodian h' s t, Requests user input h' actor owner custodian →
      insertMintRequest (mintRequestRow uuid (requested input actor owner custodian)) s = some t →
        Q h' s t) : (Mint.request env user uuid input).Yields Q
      (fun _ h' => ∃ actor owner custodian, Requests user input h' actor owner custodian) h := by
  apply requireActor_recalls hq
  intro actor h₁ _ hactor _
  apply guard_recalls
  intro hmanager
  apply requireTarget_recalls hq
  intro owner h₂ hh₂ howner
  apply requireTarget_recalls hq
  intro custodian h₃ hh₃ hcustodian
  apply guard_recalls
  intro hownerScope
  apply guard_recalls
  intro hcustodianScope
  have hrequests : Requests user input h₃ actor owner custodian :=
    ⟨hactor.mono (List.Subset.trans hh₂ hh₃), by simpa using hmanager, howner.mono hh₃, hcustodian,
      by simpa using hownerScope, by simpa using hcustodianScope⟩
  apply (assertNoOpenRequest_recalls hq).bind
  intro _ h₄ hh₄
  have hcreate :
      (createMintRequest env uuid (requested input actor owner custodian)).Recalls Q h₄ := by
    refine .ite (fun _ => .fulfilled trivial) fun _ => ?_
    have hinsert := fun s t => hw actor owner custodian h₄ s t (hrequests.mono hh₄)
    apply (insert_recalls (fun s => hq _ _ _ (.refl s)) hinsert).bind
    intro _ h' _
    exact selectMintRequest_recalls hq
  apply hcreate.bind
  intro created h₅ hh₅
  apply auditMint_recalls hq
  intro h₆ hh₆
  exact .fulfilled ⟨actor, owner, custodian,
    hrequests.mono (List.Subset.trans hh₄ (List.Subset.trans hh₅ hh₆))⟩

theorem decide_recalls {user : Option ℕ} {input : DecideInput}
    (hw : ∀ actor request h' s, Decides user input h' actor request →
      Q h' s (decideIn (decided input actor) s)) : (Mint.decide env user input).Recalls Q h := by
  apply requireActor_recalls hq
  intro actor h₁ _ hactor _
  apply assertAdmin_recalls
  intro hadmin
  refine found_recalls hq rfl (fun _ => .rejected _ _) fun s request hrequest => ?_
  apply guard_recalls
  intro hpending
  apply guard_recalls
  intro hrequester
  have hdecides : Decides user input (h₁ ++ [(s, s)]) actor request :=
    ⟨hactor.mono (List.subset_append_left _ _), hadmin, ⟨(s, s), by simp, hrequest⟩,
      not_not.mp hpending, hrequester⟩
  have hupdate :
      (decideMintRequest env (decided input actor)).Recalls Q (h₁ ++ [(s, s)]) := by
    refine .ite (fun _ => .fulfilled trivial) fun _ => ?_
    refine Async.yields_statement_bind (fun s' => hw actor request _ s' hdecides) fun s' => ?_
    exact .ite (fun _ => .fulfilled trivial) fun _ => selectMintRequest_recalls hq
  apply hupdate.bind
  intro updated h₂ _
  cases updated with
  | none => exact .rejected _ _
  | some updated =>
    apply auditMint_recalls hq
    intro h₃ _
    exact .fulfilled trivial

end

/-! ### The parts of an execution -/

section

variable {α : Type} {Q : List (World × World) → World → World → Prop}
  (hq : ∀ h s t, KeepsMints s t → Q h s t)

include hq

omit hq in
theorem prepare_obeys {user : Option ℕ} {input : RequestId} :
    (prepare env user input).Obeys (fun _ => True) fun s t => t.assets = s.assets := by
  have hkeeps : (prepare env user input).Recalls (fun _ s t => KeepsMints s t) [] :=
    Async.Yields.weaken (prepare_yields fun _ _ _ => .of_audits) fun _ _ _ => trivial
  exact hkeeps.obeys fun _ _ _ _ hk => hk.assets

omit hq in
theorem tryRegister_yields {p : Prepared}
    (hs : ∀ s, Q h s (Besu.submitIn p.besu p.registration s).2) :
    (tryRegister p.besu p.request p.custodianWallet).Yields Q
      (fun outcome h' => h <+: h' ∧
        match outcome with
        | .ok transactionHash => Registered p transactionHash h'
        | .error _ => p.besu.initializationError = none → Passed (fun _ s t => Refuses s t) h') h := by
  unfold tryRegister Besu.registerAsset Besu.ensureInitialized
  cases hinit : p.besu.initializationError with
  | some message => exact .fulfilled ⟨List.prefix_refl _, fun h => by cases h⟩
  | none =>
    refine .pending hs fun s => ?_
    cases hr : (Besu.submitIn p.besu p.registration s).1 with
    | error message =>
      have hr' : (Besu.submitIn p.besu (.registerAsset p.request.assetId p.custodianWallet) s).1 =
        .error message := hr
      simp only [hr']
      exact .fulfilled ⟨List.prefix_append _ _, fun _ => passed_now (Besu.submitIn_refuses _ hr)⟩
    | ok transactionHash =>
      have hr' : (Besu.submitIn p.besu (.registerAsset p.request.assetId p.custodianWallet) s).1 =
        .ok transactionHash := hr
      simp only [hr']
      exact .fulfilled ⟨List.prefix_append _ _, passed_now (Prod.ext hr rfl)⟩

theorem resolveTokenId_yields {besu : BesuConfig} {assetId : String} :
    (resolveTokenId besu assetId).Yields Q
      (fun tokenId h' => besu.initializationError = none ∧ h <+: h' ∧
        Passed (fun h₁ s _ => h₁ = h ∧ s.ledger.refusal = none ∧
          tokenId = tokenIdOf (s.ledger.find assetId)) h') h := by
  have hread : (Besu.getAsset besu assetId).Yields Q (fun record h' => h <+: h' ∧
      Passed (fun h₁ s _ => h₁ = h ∧ s.ledger.refusal = none ∧ record = s.ledger.find assetId) h') h :=
    Besu.getAsset_yields fun h s => hq h s s (.refl s)
  cases hinit : besu.initializationError with
  | some message =>
    simp only [resolveTokenId, Besu.getAsset, Besu.ensureInitialized, hinit]
    exact .rejected _ _
  | none =>
    apply hread.bind
    rintro record h' ⟨hpre, hrecord⟩
    refine .fulfilled ⟨rfl, hpre, hrecord.imp ?_⟩
    rintro h₁ s t ⟨rfl, hrefusal, rfl⟩
    exact ⟨rfl, hrefusal, rfl⟩

omit hq in
theorem resolveTokenId_obeys {besu : BesuConfig} {assetId : String} :
    (resolveTokenId besu assetId).Obeys (fun _ => True) fun s t => t.assets = s.assets := by
  have hkeeps : (resolveTokenId besu assetId).Recalls (fun _ s t => KeepsMints s t) [] :=
    Async.Yields.weaken (resolveTokenId_yields fun _ _ _ => id) fun _ _ _ => trivial
  exact hkeeps.obeys fun _ _ _ _ hk => hk.assets

theorem activate_recalls {besu : BesuConfig} {actor : Actor} {request : MintRequestRow} :
    (activate env besu actor request).Recalls Q h := by
  have hread : ∀ h s, Q h s s := fun h s => hq h s s (.refl s)
  have hset : (Besu.setAssetStatus besu request.assetId).Recalls Q h := by
    apply Besu.ensureInitialized_yields.bind
    rintro _ _ rfl
    apply (Besu.requireAssetToken_yields hread).bind
    intro _ h' _
    exact (Besu.view_yields hread).weaken fun _ _ _ => trivial
  apply hset.recover
  intro error h' _
  exact (createAuditEvent_audits env _).recalls (fun h s t ht => hq h s t (.of_audits ht)) h'

omit hq in
theorem activate_obeys {besu : BesuConfig} {actor : Actor} {request : MintRequestRow} :
    (activate env besu actor request).Obeys (fun _ => True) fun s t => t.assets = s.assets := by
  have hkeeps : (activate env besu actor request).Recalls (fun _ s t => KeepsMints s t) [] :=
    activate_recalls fun _ _ _ => id
  exact hkeeps.obeys fun _ _ _ _ hk => hk.assets

theorem markMintRequestExecuted_recalls {id tokenId transactionHash : String}
    (hw : ∀ s, Q h s (markMintIn id tokenId transactionHash s)) :
    (markMintRequestExecuted env id tokenId transactionHash).Recalls Q h := by
  refine .ite (fun _ => .fulfilled trivial) fun _ => ?_
  apply Async.yields_statement_bind hw
  intro s
  exact selectMintRequest_recalls fun h s t ht => hq h s t (.of_audits ht)

theorem createAsset_yields (row : AssetRow) (hdb : env.databaseConfigured = true)
    (hinsert : ∀ s t, insertAsset row s = some t → Q h s t) :
    (tryCatch (createAsset env row) fun _ => pure none : Promise (Option AssetRow)).Yields Q
      (fun asset h' => h <+: h' ∧
        match asset with
        | some asset => asset.id = row.id ∧ Passed (fun _ s t => insertAsset row s = some t) h'
        | none => Passed (fun h₁ s _ => h₁ = h ∧ insertAsset row s = none) h' ∨
            Passed (fun h₁ s _ => (∃ s₁ t₁, h₁ = h ++ [(s₁, t₁)] ∧ insertAsset row s₁ = some t₁) ∧
              (s.databaseFails = true ∨ s.assets.find? (·.id == row.id) = none)) h') h := by
  have hread : ∀ h s, Q h s s := fun h s => hq h s s (.refl s)
  simp only [createAsset, hdb, Bool.not_true, if_neg Bool.false_ne_true, insert_eq]
  refine .pending (fun s => ?_) fun s => ?_
  · cases hs : insertAsset row s with
    | none => exact hread h s
    | some t => exact hinsert s t hs
  cases hs : insertAsset row s with
  | none =>
    simp only [hs, Option.getD_none]
    exact .fulfilled ⟨List.prefix_append _ _, .inl (passed_now ⟨rfl, hs⟩)⟩
  | some t =>
    simp only [hs, Option.getD_some]
    refine .pending (fun s' => hread _ s') fun s' => ?_
    have hinserted : Passed (fun _ s t => insertAsset row s = some t) (h ++ [(s, t)]) :=
      passed_now hs
    have hpre : h <+: h ++ [(s, t)] ++ [(s', s')] := by simp
    have hfailed : s'.databaseFails = true ∨ s'.assets.find? (·.id == row.id) = none →
        Passed (fun h₁ s _ => (∃ s₁ t₁, h₁ = h ++ [(s₁, t₁)] ∧ insertAsset row s₁ = some t₁) ∧
          (s.databaseFails = true ∨ s.assets.find? (·.id == row.id) = none))
            (h ++ [(s, t)] ++ [(s', s')]) := fun hf =>
      passed_now ⟨⟨s, t, rfl, hs⟩, hf⟩
    cases hfails : s'.databaseFails with
    | true =>
      simp only [hfails]
      exact .fulfilled ⟨hpre, .inr (hfailed (.inl hfails))⟩
    | false =>
      simp only [hfails]
      cases hf : s'.assets.find? (·.id == row.id) with
      | none => exact .fulfilled ⟨hpre, .inr (hfailed (.inr hf))⟩
      | some asset =>
        have hid : asset.id = row.id := by simpa using List.find?_some hf
        exact .fulfilled ⟨hpre, hid, hinserted.mono (List.prefix_append _ _)⟩

theorem alreadyRegistered_recalls {input : RequestId} {p : Prepared} {error : Error}
    (hrequest : RequestRead p.request.id h p.request)
    (hrefused : p.besu.initializationError = none → Passed (fun _ s t => Refuses s t) h)
    (hmark : ∀ tokenId h' s, h ⊆ h' → tokenId ≠ "" → ExistingToken p tokenId h' →
      Q h' s (markMintIn input.requestId tokenId "" s)) :
    (alreadyRegistered env p.besu input p.request error).Recalls Q h := by
  refine .ite (fun _ => ?_) fun _ => .rejected _ _
  apply (resolveTokenId_yields hq).bind
  rintro tokenId h' ⟨hinit, hpre, htoken⟩
  refine .ite (fun hne => ?_) fun _ => .rejected _ _
  have hexisting : ExistingToken p tokenId h' := by
    apply htoken.imp
    rintro h₁ s t ⟨rfl, hfound⟩
    exact ⟨hrequest, hrefused hinit, hfound⟩
  apply (markMintRequestExecuted_recalls hq
    fun s => hmark tokenId h' s hpre.subset hne hexisting).bind
  intro _ h'' _
  exact .fulfilled trivial

theorem completeMint_recalls {uuid transactionHash : String} {input : RequestId} {p : Prepared}
    (hdb : env.databaseConfigured = true) (hrequest : RequestRead p.request.id h p.request)
    (hregistered : Registered p transactionHash h)
    (hunwritten : ∀ e ∈ h, e.2.assets = e.1.assets)
    (hinsert : ∀ h' s t, h ⊆ h' → Registered p transactionHash h' →
      insertAsset (p.asset uuid) s = some t → Q h' s t)
    (htoken : ∀ tokenId h' s, h ⊆ h' → TokenRead p transactionHash tokenId h' →
      Inserted p uuid h' → Q h' s (setTokenIn uuid tokenId s))
    (hmark : ∀ tokenId h' s, h ⊆ h' → TokenRead p transactionHash tokenId h' →
      TokenSet p uuid transactionHash tokenId h' ∨ CreateFailed p uuid transactionHash h' →
        Q h' s (markMintIn input.requestId tokenId transactionHash s)) :
    (completeMint env p.besu p.actor uuid input p.request p.owner p.custodian
      transactionHash).Recalls Q h := by
  apply ((resolveTokenId_yields hq).keeps resolveTokenId_obeys hunwritten).bind
  rintro tokenId h₁ ⟨hunwritten₁, -, hpre₁, hread⟩
  have htokenRead : TokenRead p transactionHash tokenId h₁ := by
    apply hread.imp
    rintro h' s t ⟨rfl, -, htokenId⟩
    exact ⟨hregistered, htokenId⟩
  apply ((activate_recalls hq).extends.keeps activate_obeys hunwritten₁).bind
  rintro _ h₂ ⟨hunwritten₂, hpre₂, -⟩
  have hpre : h <+: h₂ := hpre₁.trans hpre₂
  have hregistered₂ : Registered p transactionHash h₂ := hregistered.mono hpre
  apply (createAsset_yields hq (p.asset uuid) hdb
    fun s t => hinsert h₂ s t hpre.subset hregistered₂).bind
  rintro asset h₃ ⟨hpre₃, hasset⟩
  have hfinish : ∀ h', h₃ <+: h' →
      TokenSet p uuid transactionHash tokenId h' ∨ CreateFailed p uuid transactionHash h' →
        (do
          let _ ← markMintRequestExecuted env input.requestId tokenId transactionHash
          auditMint env p.actor "NFT_MINTED" p.request.assetId s!"Mint executed for {p.request.name}"
          pure
            { assetId := p.request.assetId
              tokenId := tokenId
              transactionHash := some transactionHash
              idempotent := false } : Promise ExecuteResult).Recalls Q h' := by
    intro h' hpre' hcreated
    have hpre'' : h <+: h' := (hpre.trans hpre₃).trans hpre'
    apply (markMintRequestExecuted_recalls hq fun s => hmark tokenId h' s hpre''.subset
      (htokenRead.mono ((hpre₂.trans hpre₃).trans hpre')) hcreated).bind
    intro _ h₅ _
    apply auditMint_recalls fun h s t ht => hq h s t (.of_audits ht)
    intro h₆ _
    exact .fulfilled trivial
  cases asset with
  | none =>
    apply hfinish h₃ (List.prefix_refl _)
    refine .inr (hasset.imp (fun hrejected => ?_) fun hlost => ?_)
    · apply hrejected.imp
      rintro h' s t ⟨rfl, hnone⟩
      exact ⟨hrequest.mono hpre.subset, hregistered₂, hunwritten₂, hnone⟩
    · apply hlost.imp
      rintro h' s t ⟨⟨s₁, t₁, rfl, hinserted⟩, hgone⟩
      refine ⟨hrequest.mono (List.Subset.trans hpre.subset (List.subset_append_left _ _)), ?_, hgone⟩
      exact ⟨h₂, s₁, t₁, rfl, hinserted⟩
  | some asset =>
    obtain ⟨hid, hinserted⟩ := hasset
    have hset : (setAssetTokenId env asset.id tokenId).Yields Q
        (fun _ h' => h₃ <+: h' ∧ TokenSet p uuid transactionHash tokenId h') h₃ := by
      have huuid : asset.id = uuid := hid
      rw [huuid]
      refine .ite (fun hno => by simp [hdb] at hno) fun _ => ?_
      apply Async.yields_statement
      · exact fun s => htoken tokenId h₃ s (hpre.trans hpre₃).subset
          (htokenRead.mono (hpre₂.trans hpre₃)) hinserted
      · exact fun s => ⟨List.prefix_append _ _, passed_now ⟨htokenRead.mono (hpre₂.trans hpre₃), hinserted, rfl⟩⟩
    apply hset.bind
    rintro _ h₄ ⟨hpre₄, htokenSet⟩
    exact hfinish h₄ hpre₄ (.inl htokenSet)

theorem execute_recalls {user : Option ℕ} {uuid : String} {input : RequestId}
    (hsubmit : ∀ p h' s, Executes env user input h' p →
      Q h' s (Besu.submitIn p.besu p.registration s).2)
    (hexisting : ∀ p tokenId h' s, Executes env user input h' p → tokenId ≠ "" →
      ExistingToken p tokenId h' → Q h' s (markMintIn input.requestId tokenId "" s))
    (hinsert : ∀ p transactionHash h' s t, Executes env user input h' p →
      Registered p transactionHash h' → insertAsset (p.asset uuid) s = some t → Q h' s t)
    (htoken : ∀ p transactionHash tokenId h' s, Executes env user input h' p →
      TokenRead p transactionHash tokenId h' → Inserted p uuid h' →
        Q h' s (setTokenIn uuid tokenId s))
    (hmark : ∀ p transactionHash tokenId h' s, Executes env user input h' p →
      TokenRead p transactionHash tokenId h' →
        TokenSet p uuid transactionHash tokenId h' ∨ CreateFailed p uuid transactionHash h' →
          Q h' s (markMintIn input.requestId tokenId transactionHash s)) :
    (execute env user uuid input).Recalls Q [] := by
  apply ((prepare_yields fun h s t ht => hq h s t (.of_audits ht)).keeps prepare_obeys (by simp)).bind
  rintro p h₁ ⟨hunwritten, hexecutes⟩
  have hregister := tryRegister_yields fun s => hsubmit p h₁ s hexecutes
  have hkeeps : (tryRegister p.besu p.request p.custodianWallet).Obeys (fun _ => True)
      fun s t => t.assets = s.assets := by
    have htry := tryRegister_yields (p := p) (h := []) (Q := fun _ s t => t.assets = s.assets)
      fun s => rfl
    exact Async.Recalls.obeys (htry.weaken fun _ _ _ => trivial) fun _ _ _ _ => id
  apply (hregister.keeps hkeeps hunwritten).bind
  rintro outcome h₂ ⟨hunwritten₂, hpre, houtcome⟩
  have hexecutes₂ := hexecutes.mono hpre.subset
  have hrequest : RequestRead p.request.id h₂ p.request := by
    have hread := hexecutes₂.requestRead
    rwa [← hread.id_eq] at hread
  cases outcome with
  | error error =>
    apply alreadyRegistered_recalls hq hrequest houtcome
    intro tokenId h' s hh'
    exact hexisting p tokenId h' s (hexecutes₂.mono hh')
  | ok transactionHash =>
    apply completeMint_recalls hq hexecutes.configured hrequest houtcome hunwritten₂
    · intro h' s t hh'
      exact hinsert p transactionHash h' s t (hexecutes₂.mono hh')
    · intro tokenId h' s hh'
      exact htoken p transactionHash tokenId h' s (hexecutes₂.mono hh')
    · intro tokenId h' s hh'
      exact hmark p transactionHash tokenId h' s (hexecutes₂.mono hh')

end

/-! ### The system -/

inductive MintCall where
  | request (user : Option ℕ) (uuid : String) (input : RequestInput)
  | decide (user : Option ℕ) (input : DecideInput)
  | execute (user : Option ℕ) (uuid : String) (input : RequestId)

inductive MintReply where
  | requested (row : Option MintRequestRow)
  | decided (row : MintRequestRow)
  | executed (result : ExecuteResult)

def mintBody (env : Environment) : MintCall → Promise MintReply
  | .request user uuid input => do return .requested (← Mint.request env user uuid input)
  | .decide user input => do return .decided (← Mint.decide env user input)
  | .execute user uuid input => do return .executed (← execute env user uuid input)

/-- `rest` is what the rest of the application and the other users of the chain may do. -/
def mintSystem (env : Environment) (rest : World → World → Prop) :
    System MintCall World Error MintReply where
  body := mintBody env
  interfere := rest

abbrev MintConfig := Config MintCall World Error MintReply

/-- What a statement of an execution writes, after the past `h`. -/
inductive ExecutionWrites (env : Environment) (user : Option ℕ) (uuid : String) (input : RequestId)
    (h : List (World × World)) (s : World) : World → Prop
  | register (p : Prepared) (hp : Executes env user input h p) :
    ExecutionWrites env user uuid input h s (Besu.submitIn p.besu p.registration s).2
  | existing (p : Prepared) (tokenId : String) (hp : Executes env user input h p)
    (hne : tokenId ≠ "") (htoken : ExistingToken p tokenId h) :
    ExecutionWrites env user uuid input h s (markMintIn input.requestId tokenId "" s)
  | insert (p : Prepared) (transactionHash : String) {t : World} (hp : Executes env user input h p)
    (hr : Registered p transactionHash h) (ht : insertAsset (p.asset uuid) s = some t) :
    ExecutionWrites env user uuid input h s t
  | setToken (p : Prepared) (transactionHash tokenId : String) (hp : Executes env user input h p)
    (htoken : TokenRead p transactionHash tokenId h) (hi : Inserted p uuid h) :
    ExecutionWrites env user uuid input h s (setTokenIn uuid tokenId s)
  | mark (p : Prepared) (transactionHash tokenId : String) (hp : Executes env user input h p)
    (htoken : TokenRead p transactionHash tokenId h)
    (hc : TokenSet p uuid transactionHash tokenId h ∨ CreateFailed p uuid transactionHash h) :
    ExecutionWrites env user uuid input h s (markMintIn input.requestId tokenId transactionHash s)

/-- What a statement of the call does to what minting is about, after the past `h`. -/
def MintCall.Writes (env : Environment) (call : MintCall) (h : List (World × World))
    (s t : World) : Prop :=
  match call with
  | .request user uuid input => ∃ actor owner custodian, Requests user input h actor owner custodian ∧
      insertMintRequest (mintRequestRow uuid (requested input actor owner custodian)) s = some t
  | .decide user input => ∃ actor request, Decides user input h actor request ∧
      t = decideIn (decided input actor) s
  | .execute user uuid input => ExecutionWrites env user uuid input h s t

def MintCall.Effect (env : Environment) (call : MintCall) (h : List (World × World))
    (s t : World) : Prop :=
  KeepsMints s t ∨ call.Writes env h s t

theorem mint_recalls (env : Environment) (rest : World → World → Prop) (call : MintCall) :
    ((mintSystem env rest).body call).Recalls (call.Effect env) [] := by
  have hq : ∀ h s t, KeepsMints s t → call.Effect env h s t := fun _ _ _ => .inl
  have haudits : ∀ h s t, Audits s t → call.Effect env h s t := fun h s t ht => hq h s t (.of_audits ht)
  cases call with
  | request user uuid input =>
    refine (request_yields haudits ?_).bind fun _ _ _ => .fulfilled trivial
    intro actor owner custodian h s t hr ht
    exact .inr ⟨actor, owner, custodian, hr, ht⟩
  | decide user input =>
    refine (decide_recalls haudits ?_).bind fun _ _ _ => .fulfilled trivial
    intro actor request h s hd
    exact .inr ⟨actor, request, hd, rfl⟩
  | execute user uuid input =>
    refine (execute_recalls hq ?_ ?_ ?_ ?_ ?_).bind fun _ _ _ => .fulfilled trivial
    · exact fun p h s hp => .inr (.register p hp)
    · exact fun p tokenId h s hp hne htoken => .inr (.existing p tokenId hp hne htoken)
    · exact fun p hash h s t hp hr ht => .inr (.insert p hash hp hr ht)
    · exact fun p hash tokenId h s hp htoken hi => .inr (.setToken p hash tokenId hp htoken hi)
    · exact fun p hash tokenId h s hp htoken hc => .inr (.mark p hash tokenId hp htoken hc)

end Sampraan.Governance.Mint
