import Sampraan.Governance.Disputes

/-!
The hold of an asset in the two layers. A confirmed transaction puts it on or
takes it off on the chain; the table of disputes never follows, since no digest
fits its column and no row has an id that is a number.
-/

namespace Sampraan.Governance.Disputes

open Backend Library CryptoAssurance

/-! ### Ids and digests -/

/-- The shape of what `crypto.randomUUID()` returns. -/
def isUuid (id : String) : Bool :=
  id.toList.length == 36 && id.toList.zipIdx.all fun e =>
    if [8, 13, 18, 23].contains e.2 then e.1 == '-' else isHexDigit e.1

theorem isWhiteSpace_hexDigit {c : Char} (h : isHexDigit c = true) : Decimal.isWhiteSpace c = false := by
  have hrange : (48 ≤ c.toNat ∧ c.toNat ≤ 57) ∨ (97 ≤ c.toNat ∧ c.toNat ≤ 102) ∨
      (65 ≤ c.toNat ∧ c.toNat ≤ 70) := by
    simp only [isHexDigit, Char.isDigit, Bool.or_eq_true, Bool.and_eq_true, decide_eq_true_eq,
      Char.le_def, UInt32.le_iff_toNat_le] at h
    obtain (h | h) | h := h
    · exact .inl h
    · exact .inr (.inl h)
    · exact .inr (.inr h)
  simp only [Decimal.isWhiteSpace, List.contains_eq_mem, List.mem_cons, List.not_mem_nil, or_false,
    decide_eq_false_iff_not]
  omega

theorem isUuid_getElem? {id : String} (h : isUuid id = true) {i : ℕ} {c : Char}
    (hi : id.toList[i]? = some c) :
    if [8, 13, 18, 23].contains i then c = '-' else isHexDigit c = true := by
  have hall := (Bool.and_eq_true _ _ ▸ h).2
  have hc := List.all_eq_true.mp hall (c, i) (List.mem_zipIdx_iff_getElem?.mpr hi)
  dsimp only at hc
  split at hc
  · rw [if_pos ‹_›]
    exact eq_of_beq hc
  · rw [if_neg ‹_›]
    exact hc

/-- No row's id is a number. -/
theorem bigInt?_uuid {id : String} (h : isUuid id = true) : Decimal.bigInt? id = none := by
  have hlength : id.toList.length = 36 := eq_of_beq (Bool.and_eq_true _ _ ▸ h).1
  have hhex : ∀ i c, i = 0 ∨ i = 35 → id.toList[i]? = some c → Decimal.isWhiteSpace c = false := by
    rintro i c (rfl | rfl) hi
    · exact isWhiteSpace_hexDigit (isUuid_getElem? h hi)
    · exact isWhiteSpace_hexDigit (isUuid_getElem? h hi)
  apply Decimal.bigInt?_eq_none
  · apply Decimal.trim_eq_self
    · intro c hc
      exact hhex 0 c (.inl rfl) (by simpa [List.head?_eq_getElem?] using hc)
    · intro c hc
      exact hhex 35 c (.inr rfl) (by simpa [List.getLast?_eq_getElem?, hlength] using hc)
  · obtain ⟨c, hc⟩ : ∃ c, id.toList[8]? = some c :=
      Option.isSome_iff_exists.mp (by simp [hlength])
    obtain rfl : c = '-' := isUuid_getElem? h hc
    apply List.mem_of_getElem? (i := 6)
    simpa using hc

theorem hash_length {env : Environment} (hkeccak : ∀ bytes, (env.ethers.keccak256 bytes).length = 66)
    (input : RaiseDisputeInput) : (input.hash env).length = 66 := by
  unfold RaiseDisputeInput.hash
  cases input.evidenceHash with
  | none => exact hkeccak _
  | some hash => exact hash.length

/-! ### The table does not change -/

/-- The table is the one of the start. -/
def TableIs (disputes : List AssetDisputeRow) (w : World) : Prop := w.assetDisputes = disputes

theorem TableIs.of_eq {disputes : List AssetDisputeRow} {s t : World} (h : TableIs disputes s)
    (ht : t.assetDisputes = s.assetDisputes) : TableIs disputes t :=
  ht.trans h

def KeepsTable (s t : World) : Prop := t.assetDisputes = s.assetDisputes

theorem KeepsTable.refl (s : World) : KeepsTable s s := rfl

theorem keepsTable_of_audits {s t : World} (h : Audits s t) : KeepsTable s t := by
  obtain ⟨rows, rfl⟩ := h
  rfl

section

variable (env : Environment) {disputes : List AssetDisputeRow}

theorem createAssetDispute_keeps {uuid : String} {input : CreateAssetDispute}
    (hlong : 64 < input.evidenceHash.length) :
    (createAssetDispute env uuid input).Obeys (TableIs disputes) KeepsTable := by
  have hnone : ∀ w, insertAssetDispute (assetDisputeRow uuid input) w = none := by
    intro w
    have hfits : (assetDisputeRow uuid input).fits = false := by
      have hhash : (assetDisputeRow uuid input).evidenceHash.length ≤ 64 ↔ False := by
        simp only [assetDisputeRow, iff_false]
        omega
      simp [AssetDisputeRow.fits, hhash]
    simp [insertAssetDispute, hfits]
  apply Async.Obeys.ite
  · exact Async.obeys_pure _
  unfold Backend.insert
  rw [Async.bind_assoc]
  apply Async.Obeys.bind
  · apply Async.obeys_statement
    intro s _
    rw [hnone s]
    exact .refl s
  · intro done
    apply Async.Obeys.bind
    · exact .ite (Async.obeys_pure _) (Async.obeys_throw _)
    · intro _
      exact Async.obeys_query KeepsTable.refl

theorem recordDispute_keeps (hkeccak : ∀ bytes, (env.ethers.keccak256 bytes).length = 66)
    (uuid : String) (actor : Actor) (input : RaiseDisputeInput) :
    (recordDispute env uuid actor input).Obeys (TableIs disputes) KeepsTable := by
  have hlong : 64 < (input.hash env).length := by
    rw [hash_length hkeccak input]
    omega
  apply Async.Obeys.bind
  · exact .ite (Async.obeys_pure _) (Async.obeys_query KeepsTable.refl)
  · intro assetRow
    cases assetRow with
    | none => exact Async.obeys_pure _
    | some assetRow =>
      apply (createAssetDispute_keeps env hlong).bind
      intro _
      exact Async.obeys_pure _

theorem raiseDispute_keeps (hkeccak : ∀ bytes, (env.ethers.keccak256 bytes).length = 66)
    (user : Option ℕ) (uuid : String) (input : RaiseDisputeInput) :
    (raiseDispute env user uuid input).Obeys (TableIs disputes) KeepsTable := by
  apply ((requireActor_audits env user).mono fun _ _ => keepsTable_of_audits).bind
  intro actor
  apply Async.Obeys.ite
  · exact Async.obeys_throw _
  unfold requireAssetTokenByBusinessId
  cases env.besu with
  | none => exact Async.obeys_throw _
  | some besu =>
    apply Async.Obeys.bind
    · apply (Besu.getAsset_obeys besu KeepsTable.refl input.assetId).bind
      intro record
      cases record with
      | none => exact Async.obeys_throw _
      | some record => exact Async.obeys_pure _
    intro tokenId
    apply (Besu.auditorRaiseDispute_obeys besu KeepsTable.refl fun s tokenId _ => .refl s).bind
    intro raised
    apply (recordDispute_keeps env hkeccak uuid actor input).bind
    intro _
    apply ((audit_audits env _ _ _ _ _ _).mono fun _ _ => keepsTable_of_audits).bind
    intro _
    exact Async.obeys_pure _

/-- The id of a row that is in the list is no number, so what passes is the id of no row. -/
theorem mirrorResolution_keeps (hids : ∀ row ∈ disputes, isUuid row.id = true) (actor : Actor)
    (input : ResolveDisputeInput) {n : ℤ} (hnumber : Decimal.bigInt? input.disputeId = some n) :
    (mirrorResolution env actor input).Obeys (TableIs disputes) KeepsTable := by
  have hother : ∀ row ∈ disputes, (row.id == input.disputeId) = false := by
    intro row hrow
    apply beq_false_of_ne
    rintro heq
    rw [← heq, bigInt?_uuid (hids row hrow)] at hnumber
    cases hnumber
  unfold mirrorResolution listAssetDisputes
  split
  · exact Async.obeys_pure _
  refine .pending (fun s _ => rfl) fun s hs => ?_
  have hnone : ((((s.assetDisputes.filter (·.status == .opened)).reverse).take 100).find?
      (·.id == input.disputeId)) = none := by
    rw [List.find?_eq_none]
    intro row hrow
    have hlisted := List.mem_reverse.mp (List.mem_of_mem_take hrow)
    have hstored : row ∈ disputes := hs ▸ (List.mem_filter.mp hlisted).1
    simp [hother row hstored]
  simp only [Async.bind, hnone]
  exact Async.obeys_pure _

theorem resolveDispute_keeps (hids : ∀ row ∈ disputes, isUuid row.id = true) (user : Option ℕ)
    (input : ResolveDisputeInput) :
    (resolveDispute env user input).Obeys (TableIs disputes) KeepsTable := by
  apply ((requireActor_audits env user).mono fun _ _ => keepsTable_of_audits).bind
  intro actor
  apply (Async.Obeys.ite (Async.obeys_pure _) (Async.obeys_throw _)).bind
  intro _
  cases env.besu with
  | none => exact Async.obeys_throw _
  | some besu =>
    cases hnumber : Decimal.bigInt? input.disputeId with
    | none => exact Async.obeys_throw _
    | some disputeId =>
      apply (Besu.resolveDispute_obeys besu fun s n _ => KeepsTable.refl s).bind
      intro transactionHash
      apply (mirrorResolution_keeps env hids actor input hnumber).bind
      intro _
      apply ((audit_audits env _ _ _ _ _ _).mono fun _ _ => keepsTable_of_audits).bind
      intro _
      exact Async.obeys_pure _

end

/-! ### The system -/

inductive DisputeCall where
  | raise (user : Option ℕ) (uuid : String) (input : RaiseDisputeInput)
  | resolve (user : Option ℕ) (input : ResolveDisputeInput)

inductive DisputeReply where
  | raised (dispute : RaisedDispute)
  | resolved (transactionHash : String)

def disputeBody (env : Environment) : DisputeCall → Promise DisputeReply
  | .raise user uuid input => do return .raised (← raiseDispute env user uuid input)
  | .resolve user input => do return .resolved (← resolveDispute env user input)

/-- `isAssetDisputed` of the token that the business id is registered with. -/
def isAssetDisputed (assetId : String) (w : World) : Bool := (w.ledger.find assetId).any (·.disputed)

/-- The rest of the application neither writes the table of disputes nor moves a hold. -/
structure KeepsHolds (s t : World) : Prop where
  disputes : KeepsTable s t
  holds : ∀ assetId, isAssetDisputed assetId t = isAssetDisputed assetId s

def disputeSystem (env : Environment) : System DisputeCall World Error DisputeReply where
  body := disputeBody env
  interfere := KeepsHolds

abbrev DisputeConfig := Config DisputeCall World Error DisputeReply

/-- What the table of disputes says about an asset's row. -/
def onHold (env : Environment) (rowId : String) (disputes : List AssetDisputeRow) : Bool :=
  env.databaseConfigured && (disputes.filter fun r =>
    r.assetId == rowId && (r.status == .opened || r.status == .upheld)).length > 0

/-- The two layers agree on the hold of the asset. -/
def HoldAgrees (env : Environment) (row : AssetRow) (w : World) : Prop :=
  (hasOpenDispute env row.id).run w = (.ok (isAssetDisputed row.assetId w), w)

/-- The statement has put the asset on hold on the chain or released it. -/
def movesHold (assetId : String) (e : ℕ × World × World) : Bool :=
  isAssetDisputed assetId e.2.1 != isAssetDisputed assetId e.2.2

variable {env : Environment} {w₀ : World} {c : DisputeConfig}

theorem hasOpenDispute_run (rowId : String) (w : World) :
    (hasOpenDispute env rowId).run w = (.ok (onHold env rowId w.assetDisputes), w) := by
  unfold hasOpenDispute listOpenDisputesForAsset onHold
  cases env.databaseConfigured with
  | false => rfl
  | true =>
    rw [if_neg (by simp), Async.run_bind_ok (Async.run_query _ w)]
    rfl

theorem dispute_discipline (hkeccak : ∀ bytes, (env.ethers.keccak256 bytes).length = 66)
    (hids : ∀ row ∈ w₀.assetDisputes, isUuid row.id = true) :
    (disputeSystem env).Discipline (TableIs w₀.assetDisputes) KeepsTable where
  body call := by
    cases call with
    | raise user uuid input =>
      exact (raiseDispute_keeps env hkeccak user uuid input).bind fun _ => Async.obeys_pure _
    | resolve user input =>
      exact (resolveDispute_keeps env hids user input).bind fun _ => Async.obeys_pure _
  interfere _ _ _ h := h.disputes
  keep _ _ hs ht := hs.of_eq ht

/-- Layers that agree at first agree as long as the transactions of the run, which only the chain
follows, cancel out. -/
theorem holdAgrees_iff (hkeccak : ∀ bytes, (env.ethers.keccak256 bytes).length = 66)
    (hids : ∀ row ∈ w₀.assetDisputes, isUuid row.id = true)
    (hc : (disputeSystem env).Reachable w₀ c) {row : AssetRow} (h₀ : HoldAgrees env row w₀) :
    HoldAgrees env row c.shared ↔ Even (c.log.countP (movesHold row.assetId)) := by
  have htable : c.shared.assetDisputes = w₀.assetDisputes :=
    (dispute_discipline hkeccak hids).shared_inv rfl hc
  have hfirst : onHold env row.id w₀.assetDisputes = isAssetDisputed row.assetId w₀ := by
    have hsame := (hasOpenDispute_run row.id w₀).symm.trans h₀
    simpa using hsame
  have heven := hc.eq_iff_even (f := isAssetDisputed row.assetId) fun s t h => h.holds row.assetId
  rw [HoldAgrees, hasOpenDispute_run, htable, hfirst]
  simp only [Prod.mk.injEq, Except.ok.injEq, and_true]
  exact eq_comm.trans heven

/-! ### A sample run -/

def sampleDigest : String := "0x5ca1ab1e5ca1ab1e5ca1ab1e5ca1ab1e5ca1ab1e5ca1ab1e5ca1ab1e5ca1ab1e"

/-- The sample deployment with an auditor's key, and digests of the length that digests have. -/
def disputeEnvironment : Environment :=
  { sampleEnvironment with
    ethers :=
      { sampleEnvironment.ethers with
        keccak256 := fun _ => sampleDigest }
    besu := sampleEnvironment.besu.map fun besu =>
      { besu with secondSignerPrivateKey := some "0x02" } }

def disputedCrate (n : String) : AssetRow where
  id := "row-" ++ n
  assetId := "CRATE-" ++ n
  classification := .controlled
  tokenId := some n
  status := .active

/-- The second crate is on hold in both layers. -/
def disputeWorld : World :=
  { sampleWorld with
    identities := sampleWorld.identities ++
      [{ id := "auditor"
         linkedUserId := some 2
         displayName := "Auditor"
         status := .active
         did := "did:sampraan:auditor"
         lifecycleState := .verified }]
    identityRoles := sampleWorld.identityRoles ++ [{ identityId := "auditor", roleName := "AUDITOR" }]
    assets := [disputedCrate "1", disputedCrate "2"]
    assetDisputes :=
      [{ id := "1f0c7c1e-30a5-4d7e-9f0b-6a1d2c3b4e5f", assetId := "row-2", status := .opened }]
    ledger :=
      { assets :=
          [{ assetId := "CRATE-1", tokenId := 1, custodian := "0xA11CE", mintedBy := "0x0" },
           { assetId := "CRATE-2", tokenId := 2, custodian := "0xA11CE", mintedBy := "0x0",
             disputed := true }]
        disputes := [{ id := 1, tokenId := 2, isOpen := true, upheld := false }]
        upcomingHash := "0xface" } }

def sampleRaise : DisputeCall :=
  .raise (some 2) "2f0c7c1e-30a5-4d7e-9f0b-6a1d2c3b4e5f"
    { assetId := "CRATE-1", evidenceHash := none, reason := "broken seal" }

def sampleRejection (disputeId : String) (nonempty : disputeId ≠ "") : DisputeCall :=
  .resolve (some 1) ⟨disputeId, nonempty, false, "seal was replaced"⟩

/-- The auditor puts the first crate on hold, and the admin releases the second. -/
def disputeRun : Option DisputeConfig :=
  (disputeSystem disputeEnvironment).exec (fun _ _ => True) (Config.initial disputeWorld)
    (System.sequence 0 [(sampleRaise, 7), (sampleRejection "1" (by decide), 6)])

theorem not_holdAgrees : (∀ row ∈ disputeWorld.assets, HoldAgrees disputeEnvironment row disputeWorld) ∧
    ∃ c, (disputeSystem disputeEnvironment).Reachable disputeWorld c ∧
      (∀ i th, c.threads i = some th → th.promise.Settled) ∧
        ∀ row ∈ c.shared.assets, ¬ HoldAgrees disputeEnvironment row c.shared := by
  have hrun : disputeRun.isSome := by rfl
  have hrows : ∀ row ∈ disputeWorld.assets, row = disputedCrate "1" ∨ row = disputedCrate "2" := by
    intro row hrow
    simpa [disputeWorld] using hrow
  refine ⟨fun row hrow => ?_, disputeRun.get hrun,
    System.exec_reach (fun m hm => System.harmless_of_mem_sequence hm) (Option.some_get hrun).symm,
    fun i th hi => ?_, fun row hrow hagrees => ?_⟩
  · obtain rfl | rfl := hrows row hrow <;> rfl
  · obtain _ | _ | i := i
    · obtain rfl : _ = th := Option.some.inj hi
      trivial
    · obtain rfl : _ = th := Option.some.inj hi
      trivial
    · cases hi
  · obtain rfl | rfl := hrows row hrow
    · cases hagrees
    · cases hagrees

/-- The auditor's own dispute is rejected. -/
def releaseRun : Option DisputeConfig :=
  (disputeSystem disputeEnvironment).exec (fun _ _ => True) (Config.initial disputeWorld)
    (System.sequence 0 [(sampleRaise, 7), (sampleRejection "2" (by decide), 6)])

theorem holdAgrees_iff_sample : ∃ c, (disputeSystem disputeEnvironment).Reachable disputeWorld c ∧
    c.log.countP (movesHold "CRATE-1") = 2 ∧
      HoldAgrees disputeEnvironment (disputedCrate "1") c.shared := by
  have hrun : releaseRun.isSome := by rfl
  have hc := System.exec_reach (fun m hm => System.harmless_of_mem_sequence hm)
    (Option.some_get hrun).symm
  have hcount : (releaseRun.get hrun).log.countP (movesHold "CRATE-1") = 2 := by rfl
  have hids : ∀ row ∈ disputeWorld.assetDisputes, isUuid row.id = true := by decide
  have hdigest : sampleDigest.length = 66 := by decide
  have h₀ : HoldAgrees disputeEnvironment (disputedCrate "1") disputeWorld := rfl
  exact ⟨_, hc, hcount, (holdAgrees_iff (fun _ => hdigest) hids hc h₀).mpr (hcount ▸ even_two)⟩

end Sampraan.Governance.Disputes
