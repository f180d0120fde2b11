import Sampraan.Governance.Proposals
import Sampraan.Governance.Gate
import Sampraan.Blockchain.Indexer

/-!
What an executed proposal leaves in the tables that the application's gates
read. The procedure writes an audit row, the indexer writes audit rows, and
nobody writes the identities or the assets.
-/

namespace Sampraan.Governance.Proposals

open Backend Library CryptoAssurance Blockchain

/-! ### What a proposal asks of the tables -/

/-- Which token each registered asset has. -/
def tokens (w : World) : List (String × ℕ) := w.ledger.assets.map fun a => (a.assetId, a.tokenId)

/-- The tables show what the proposal does to the chain. -/
def Followed (env : Environment) (operatorKey : String) (proposal : LedgerProposal) (w : World) :
    Prop :=
  match proposal.kind with
  | .deactivateIdentity => ∀ identity ∈ w.identities,
      deriveIdentityWallet env operatorKey identity.did = proposal.account →
        identity.lifecycleState = .deactivated ∧ identity.status = .revoked
  | .forceTransfer => ∀ asset ∈ w.assets, (asset.assetId, proposal.tokenId) ∈ tokens w →
      ∃ identity ∈ w.identities, identity.id = asset.custodianIdentityId ∧
        deriveIdentityWallet env operatorKey identity.did = proposal.account
  | .burnNft => ∀ asset ∈ w.assets, (asset.assetId, proposal.tokenId) ∈ tokens w →
      asset.status = .revoked
  | .pauseRegistry | .unpauseRegistry | .grantRole | .revokeRole => True

/-- The step leaves what `Followed` looks at as it is. -/
structure KeepsReadModel (s t : World) : Prop where
  identities : t.identities = s.identities
  assets : t.assets = s.assets
  tokens : tokens t = tokens s

theorem KeepsReadModel.refl (s : World) : KeepsReadModel s s := ⟨rfl, rfl, rfl⟩

theorem KeepsReadModel.of_audits {s t : World} (h : Audits s t) : KeepsReadModel s t := by
  obtain ⟨rows, rfl⟩ := h
  exact ⟨rfl, rfl, rfl⟩

theorem KeepsReadModel.of_indexes {s t : World} (h : Indexes s t) : KeepsReadModel s t := by
  obtain ⟨rows, indexing, keys, rfl⟩ := h
  exact ⟨rfl, rfl, rfl⟩

theorem KeepsReadModel.followed_congr {env : Environment} {operatorKey : String}
    {proposal : LedgerProposal} {s t : World} (h : KeepsReadModel s t) :
    Followed env operatorKey proposal t ↔ Followed env operatorKey proposal s := by
  unfold Followed
  rw [h.identities, h.assets, h.tokens]

/-! ### The steps of an execution -/

theorem onAsset_token (proposal : LedgerProposal) (asset : LedgerAsset) :
    (proposal.onAsset asset).assetId = asset.assetId ∧
      (proposal.onAsset asset).tokenId = asset.tokenId := by
  unfold LedgerProposal.onAsset
  split
  · exact ⟨rfl, rfl⟩
  · cases proposal.kind <;> exact ⟨rfl, rfl⟩

theorem tokens_execute (besu : BesuConfig) (proposalId : ℕ) (s : World) :
    tokens (Besu.submitIn besu (.executeProposal proposalId) s).2 = tokens s := by
  unfold Besu.submitIn Ledger.submit
  cases Besu.answer besu (.executeProposal proposalId) s.ledger with
  | some message => rfl
  | none =>
    simp only [tokens, Ledger.perform, List.map_map]
    apply List.map_congr_left
    intro asset _
    cases s.ledger.proposal proposalId with
    | none => rfl
    | some proposal =>
      obtain ⟨hasset, htoken⟩ := onAsset_token proposal asset
      exact Prod.ext hasset htoken

theorem submit_keeps (besu : BesuConfig) (proposalId : ℕ) (s : World) :
    KeepsReadModel s (Besu.submitIn besu (.executeProposal proposalId) s).2 where
  identities := rfl
  assets := rfl
  tokens := tokens_execute besu proposalId s

section

variable {I : World → Prop}

theorem requireGovernance_obeys {T : World → World → Prop} (besu : BesuConfig) :
    (requireGovernance besu).Obeys I T :=
  .ite (Async.obeys_throw _) (Async.obeys_pure _)

theorem getGovernanceProposal_keeps (besu : BesuConfig) (proposalId : ℕ) :
    (getGovernanceProposal besu proposalId).Obeys I KeepsReadModel := by
  apply (Besu.ensureInitialized_obeys besu).bind
  intro _
  apply (requireGovernance_obeys besu).bind
  intro _
  apply (Besu.encodeUint256_obeys proposalId).bind
  intro encoded
  apply (Besu.view_obeys KeepsReadModel.refl _).bind
  intro state
  apply (Besu.view_obeys KeepsReadModel.refl _).bind
  intro _
  exact Async.obeys_pure _

theorem executeGovernanceProposal_keeps (besu : BesuConfig) (proposalId : ℕ) :
    (executeGovernanceProposal besu proposalId).Obeys I KeepsReadModel := by
  apply (Besu.ensureInitialized_obeys besu).bind
  intro _
  apply (requireGovernance_obeys besu).bind
  intro _
  apply (Besu.encodeUint256_obeys proposalId).bind
  intro encoded
  exact Besu.submit_obeys besu fun s _ => submit_keeps besu encoded s

theorem assertExecutable_obeys {T : World → World → Prop} (state : ProposalState) (now : ℤ) :
    (assertExecutable state now).Obeys I T := by
  apply Async.Obeys.ite (Async.obeys_throw _)
  apply Async.Obeys.ite (Async.obeys_throw _)
  apply Async.Obeys.ite (Async.obeys_throw _)
  exact .ite (Async.obeys_throw _) (Async.obeys_pure _)

theorem execute_keeps (env : Environment) (user : Option ℕ) (input : ProposalInput) :
    (execute env user input).Obeys I KeepsReadModel := by
  apply ((requireActor_audits env user).mono fun _ _ => .of_audits).bind
  intro actor
  apply (Async.Obeys.ite (Async.obeys_pure _) (Async.obeys_throw _)).bind
  intro _
  cases env.besu with
  | none => exact Async.obeys_throw _
  | some besu =>
    apply (getGovernanceProposal_keeps besu input.number).bind
    intro state
    apply (Async.obeys_query KeepsReadModel.refl).bind
    intro now
    apply (assertExecutable_obeys state now).bind
    intro _
    apply (executeGovernanceProposal_keeps besu input.number).bind
    intro transactionHash
    apply ((audit_audits env _ _ _ _ _ _).mono fun _ _ => .of_audits).bind
    intro _
    exact Async.obeys_pure _

end

/-! ### The system -/

inductive ExecutionCall where
  | execute (user : Option ℕ) (input : ProposalInput)
  | scan (windowBlocks : ℕ)

inductive ExecutionReply where
  | executed (transactionHash : String)
  | scanned (result : IndexerResult)

def executionBody (env : Environment) : ExecutionCall → Promise ExecutionReply
  | .execute user input => do return .executed (← execute env user input)
  | .scan windowBlocks => do return .scanned (← indexRecentEvents env windowBlocks)

/-- Executions and scans, next to whatever else the application does. -/
def executionSystem (env : Environment) (elsewhere : World → World → Prop) :
    System ExecutionCall World Error ExecutionReply where
  body := executionBody env
  interfere := elsewhere

abbrev ExecutionConfig := Config ExecutionCall World Error ExecutionReply

/-- The call has returned, and its transaction has executed the proposal in the state `s`. -/
def Executed (c : ExecutionConfig) (i : ℕ) (proposal : LedgerProposal) (s : World) : Prop :=
  ∃ user input transactionHash t, c.Returned i (.execute user input) (.executed transactionHash) ∧
    (s, t) ∈ c.history i ∧ s.ledger.proposal proposal.id = some proposal ∧
      Confirms (.executeProposal proposal.id) transactionHash s t

/-- The read model follows what the returned calls have executed. -/
def FollowsExecuted (env : Environment) (operatorKey : String) (c : ExecutionConfig) : Prop :=
  ∀ i proposal s, Executed c i proposal s → Followed env operatorKey proposal c.shared

/-- The step neither brings the tables to what the proposal asks nor away from it. -/
def Spares (env : Environment) (operatorKey : String) (proposal : LedgerProposal) (s t : World) :
    Prop :=
  Followed env operatorKey proposal t ↔ Followed env operatorKey proposal s

variable {env : Environment} {operatorKey : String} {proposal : LedgerProposal}

theorem execution_obeys {I : World → Prop} (call : ExecutionCall) :
    (executionBody env call).Obeys I (Spares env operatorKey proposal) := by
  cases call with
  | execute user input =>
    apply ((execute_keeps env user input).mono fun _ _ h => h.followed_congr).bind
    intro transactionHash
    exact Async.obeys_pure _
  | scan windowBlocks =>
    apply ((indexRecentEvents_indexes env windowBlocks).mono
      fun _ _ h => (KeepsReadModel.of_indexes h).followed_congr).bind
    intro result
    exact Async.obeys_pure _

theorem execution_discipline :
    (executionSystem env (Spares env operatorKey proposal)).Discipline (fun _ => True)
      (Spares env operatorKey proposal) where
  body := execution_obeys
  interfere _ _ _ h := h
  keep _ _ _ _ := trivial

theorem Spares.of_steps {s t : World}
    (h : Relation.ReflTransGen (Spares env operatorKey proposal) s t) :
    Followed env operatorKey proposal t ↔ Followed env operatorKey proposal s := by
  induction h with
  | refl => exact Iff.rfl
  | tail _ hstep ih => exact hstep.trans ih

/-- The tables show the outcome of an execution exactly when they have shown it before. -/
theorem followed_iff {w₀ s : World} {c : ExecutionConfig} {i : ℕ}
    (hc : (executionSystem env (Spares env operatorKey proposal)).Reachable w₀ c)
    (hexecuted : Executed c i proposal s) :
    Followed env operatorKey proposal c.shared ↔ Followed env operatorKey proposal s := by
  obtain ⟨user, input, transactionHash, t, -, he, -⟩ := hexecuted
  obtain ⟨-, hlater⟩ := execution_discipline.recalled trivial hc he
  exact Spares.of_steps hlater

/-! ### A sample run -/

/-- The sample deployment, where the wallet of a DID depends on the DID. -/
def proposalEnvironment : Environment :=
  { sampleEnvironment with
    ethers :=
      { sampleEnvironment.ethers with
        keccak256 := fun bytes => String.ofList (bytes.map fun b => Char.ofNat b.toNat)
        solidityPacked := fun _ did => did.toList.map fun c => UInt8.ofNat c.toNat
        walletAddress := fun did => if did = "did:sampraan:holder" then "0xA11CE" else "0xCA401" } }

def sampleProposal (id : ℕ) (kind : GovernanceKind) (account : String) (tokenId : ℕ) :
    LedgerProposal where
  id := id
  kind := kind
  target := "0xA55E7"
  account := account
  tokenId := tokenId
  createdAt := 1700000000
  approvals := 2
  executed := false
  cancelled := false

/-- One of each kind that the claim of the tables is about: the carrier is to be deactivated, the
first token to go to the carrier, the second to be burned. -/
def sampleProposals : List LedgerProposal :=
  [sampleProposal 1 .deactivateIdentity "0xCA401" 0, sampleProposal 2 .forceTransfer "0xCA401" 1,
    sampleProposal 3 .burnNft zeroAddress 2]

def sampleAsset (id assetId tokenId : String) : AssetRow where
  id := id
  assetId := assetId
  classification := .controlled
  custodianIdentityId := "holder"
  tokenId := some tokenId
  status := .active

def sampleToken (assetId : String) (tokenId : ℕ) : LedgerAsset where
  assetId := assetId
  tokenId := tokenId
  custodian := "0xA11CE"
  mintedBy := "0x0"

def proposalWorld : World :=
  { sampleWorld with
    identities := sampleWorld.identities ++
      [{ id := "carrier"
         linkedUserId := some 2
         displayName := "Carrier"
         status := .active
         did := "did:sampraan:carrier"
         lifecycleState := .verified }]
    assets := [sampleAsset "row-1" "CRATE-1" "1", sampleAsset "row-2" "CRATE-2" "2"]
    ledger :=
      { assets := [sampleToken "CRATE-1" 1, sampleToken "CRATE-2" 2]
        identities := [{ wallet := "0xCA401", status := .verified }]
        proposals := sampleProposals
        quorumRequired := 2
        timestamp := 1700000000
        upcomingHash := "0xface" } }

def sampleExecution (proposalId : String)
    (digits : proposalId ≠ "" ∧ proposalId.toList.all Char.isDigit = true) : ExecutionCall :=
  .execute (some 1) ⟨proposalId, digits⟩

/-- The three proposals are executed, and the indexer scans the chain. -/
def executedRun : Option ExecutionConfig :=
  (executionSystem proposalEnvironment fun _ _ => True).exec (fun _ _ => True)
    (Config.initial proposalWorld)
    (System.sequence 0 [(sampleExecution "1" (by decide), 8), (sampleExecution "2" (by decide), 8),
      (sampleExecution "3" (by decide), 8), (.scan 500, 9)])

/-- The call that has run in the sample, and the state its transaction was mined in. -/
theorem executed_of_history {c : ExecutionConfig} {i : ℕ} {user : Option ℕ} {input : ProposalInput}
    {transactionHash : String} {proposal : LedgerProposal} (e : World × World)
    (he : (c.history i)[5]? = some e)
    (hreturned : c.Returned i (.execute user input) (.executed transactionHash))
    (hproposal : e.1.ledger.proposal proposal.id = some proposal)
    (hconfirms : Confirms (.executeProposal proposal.id) transactionHash e.1 e.2) :
    Executed c i proposal e.1 :=
  ⟨user, input, transactionHash, e.2, hreturned, List.mem_of_getElem? he, hproposal, hconfirms⟩

theorem not_followed : ∃ c, (executionSystem proposalEnvironment fun _ _ => True).Reachable
    proposalWorld c ∧ ∀ proposal ∈ sampleProposals,
      (∃ i s, Executed c i proposal s) ∧ ¬ Followed proposalEnvironment "0x01" proposal c.shared := by
  have hrun : executedRun.isSome := by rfl
  refine ⟨executedRun.get hrun, System.exec_reach (fun m hm => System.harmless_of_mem_sequence hm)
    (Option.some_get hrun).symm, ?_⟩
  intro proposal hproposal
  simp only [sampleProposals, List.mem_cons, List.not_mem_nil, or_false] at hproposal
  obtain rfl | rfl | rfl := hproposal
  · refine ⟨⟨0, _, executed_of_history _ rfl rfl rfl rfl⟩, fun hfollowed => ?_⟩
    have hrevoked := (hfollowed _ (List.mem_cons_of_mem _ List.mem_cons_self) rfl).2
    exact nomatch hrevoked
  · refine ⟨⟨1, _, executed_of_history _ rfl rfl rfl rfl⟩, fun hfollowed => ?_⟩
    obtain ⟨identity, hmem, hid, hwallet⟩ := hfollowed _ List.mem_cons_self List.mem_cons_self
    have hids : (executedRun.get hrun).shared.identities = proposalWorld.identities := rfl
    rw [hids] at hmem
    simp only [proposalWorld, sampleWorld, List.cons_append, List.nil_append, List.mem_cons,
      List.not_mem_nil, or_false] at hmem
    obtain rfl | rfl := hmem
    · exact absurd hwallet (by decide)
    · exact absurd hid (by decide)
  · refine ⟨⟨2, _, executed_of_history _ rfl rfl rfl rfl⟩, fun hfollowed => ?_⟩
    have hrevoked := hfollowed _ (List.mem_cons_of_mem _ List.mem_cons_self)
      (List.mem_cons_of_mem _ List.mem_cons_self)
    exact nomatch hrevoked

/-- The tables have the carrier deactivated already when the proposal to deactivate it is executed. -/
def revokedWorld : World :=
  { proposalWorld with
    identities := proposalWorld.identities.map fun identity =>
      if identity.id = "carrier" then
        { identity with lifecycleState := .deactivated, status := .revoked }
      else identity }

def deactivatedRun : Option ExecutionConfig :=
  (executionSystem proposalEnvironment (Spares proposalEnvironment "0x01"
    (sampleProposal 1 .deactivateIdentity "0xCA401" 0))).exec (fun _ _ => True)
    (Config.initial revokedWorld) (System.sequence 0 [(sampleExecution "1" (by decide), 8)])

theorem followed_iff_sample : ∃ c i s, Executed c i (sampleProposal 1 .deactivateIdentity "0xCA401" 0) s ∧
    (Followed proposalEnvironment "0x01" (sampleProposal 1 .deactivateIdentity "0xCA401" 0) c.shared ↔
      Followed proposalEnvironment "0x01" (sampleProposal 1 .deactivateIdentity "0xCA401" 0) s) := by
  have hrun : deactivatedRun.isSome := by rfl
  have hexecuted : Executed (deactivatedRun.get hrun) 0
      (sampleProposal 1 .deactivateIdentity "0xCA401" 0) _ :=
    executed_of_history _ rfl rfl rfl rfl
  exact ⟨_, _, _, hexecuted, followed_iff (System.exec_reach
    (fun m hm => System.harmless_of_mem_sequence hm) (Option.some_get hrun).symm) hexecuted⟩

end Sampraan.Governance.Proposals
