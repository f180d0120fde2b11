import Sampraan.Governance.ManagerScope
import Sampraan.Governance.MintAuthority

/-! Which mint requests are admitted, and with what error the others end. -/

namespace Sampraan.Governance.Mint

open Backend Library
open CryptoAssurance (Actor)
open Transfer (matchesScope)

/-- The index on `assetId`. -/
abbrev UniqueAssets (w : World) : Prop := Table.UniqueKey MintRequestRow.assetId w.mintRequests

theorem uniqueAssets_insert {row : MintRequestRow} {s t : World}
    (ht : insertMintRequest row s = some t) (hs : UniqueAssets s) : UniqueAssets t := by
  simp only [insertMintRequest, Option.ite_none_left_eq_some, Option.some.injEq] at ht
  obtain ⟨hfree, rfl⟩ := ht
  refine Table.UniqueKey.append hs fun r hr heq => hfree ?_
  exact List.any_eq_true.mpr ⟨r, hr, by simp [heq]⟩

theorem uniqueAssets_of_eq {s t : World} (ht : t.mintRequests = s.mintRequests)
    (hs : UniqueAssets s) : UniqueAssets t := by
  rw [UniqueAssets, ht]
  exact hs

theorem MintCall.Effect.uniqueAssets {env : Environment} {call : MintCall}
    {h : List (World × World)} {s t : World} (heffect : call.Effect env h s t) (hs : UniqueAssets s) :
    UniqueAssets t := by
  rcases heffect with hkeeps | hwrites
  · exact uniqueAssets_of_eq hkeeps.mintRequests hs
  cases call with
  | request user uuid input =>
    obtain ⟨actor, owner, custodian, -, ht⟩ := hwrites
    exact uniqueAssets_insert ht hs
  | decide user input =>
    obtain ⟨actor, request, -, rfl⟩ := hwrites
    exact Table.UniqueKey.update hs fun _ => rfl
  | execute user uuid input =>
    cases hwrites with
    | register => exact hs
    | existing => exact Table.UniqueKey.update hs fun _ => rfl
    | insert p transactionHash _ _ ht =>
      simp only [insertAsset, Option.ite_none_left_eq_some, Option.some.injEq] at ht
      obtain ⟨-, rfl⟩ := ht
      exact hs
    | setToken => exact hs
    | mark => exact Table.UniqueKey.update hs fun _ => rfl

/-- Whatever requests, decisions and executions there have been, in whatever order. -/
theorem uniqueAssets_reach {env : Environment} {rest : World → World → Prop}
    (hrest : ∀ s t, rest s t → UniqueAssets s → UniqueAssets t)
    {C : MintConfig → Move MintCall World → Prop} {w₀ : World} {c : MintConfig}
    (h₀ : UniqueAssets w₀) (hc : (mintSystem env rest).Reach C w₀ c) : UniqueAssets c.shared := by
  have hdiscipline : (mintSystem env rest).Discipline UniqueAssets
      (fun s t => UniqueAssets s → UniqueAssets t) := by
    constructor
    case body =>
      exact fun call => (mint_recalls env rest call).obeys fun _ _ _ _ heffect => heffect.uniqueAssets
    case interfere => exact fun s t _ hst => hrest s t hst
    case keep => exact fun s t hs hst => hst hs
  exact hdiscipline.shared_inv h₀ hc

/-! ### The call -/

/-- The caller is a manager, and owner and custodian are identities of its scope. -/
structure ByManager (env : Environment) (user : Option ℕ) (input : RequestInput) (w : World)
    (actor owner custodian : Actor) : Prop where
  actorRead : (requireActor env user).run w = (.ok actor, w)
  manager : hasRole actor "MANAGER" = true
  ownerRead : (requireTarget env input.ownerDid).run w = (.ok owner, w)
  custodianRead : (requireTarget env input.custodianDid).run w = (.ok custodian, w)
  ownerScope : matchesScope actor owner.identity = true
  custodianScope : matchesScope actor custodian.identity = true

variable {env : Environment} {user : Option ℕ} {input : RequestInput} {w : World}
  {actor owner custodian : Actor} {uuid : String}

theorem ByManager.configured (h : ByManager env user input w actor owner custodian) :
    env.databaseConfigured = true := by
  by_contra hdb
  have hread := h.ownerRead
  rw [requireTarget, if_pos (by simpa using hdb)] at hread
  cases hread

/-- What the call does once the caller has been found to be a manager. -/
def admitRequest (env : Environment) (uuid : String) (input : RequestInput)
    (actor owner custodian : Actor) : Promise (Option MintRequestRow) := do
  assertNoOpenRequest env input.assetId
  let request ← createMintRequest env uuid (requested input actor owner custodian)
  auditMint env actor "MINT_REQUESTED" input.assetId s!"Mint requested for {input.name}"
  pure request

theorem request_run (h : ByManager env user input w actor owner custodian) :
    (request env user uuid input).run w =
      (admitRequest env uuid input actor owner custodian).run w := by
  unfold request
  rw [Async.run_bind_ok h.actorRead]
  simp only [h.manager, Bool.not_true, Bool.false_eq_true, if_false]
  rw [Async.run_bind_ok h.ownerRead, Async.run_bind_ok h.custodianRead]
  simp only [h.ownerScope, h.custodianScope, Bool.not_true, Bool.false_eq_true, if_false]
  rfl

/-! ### Its outcome -/

def MintRequestOpen (row : MintRequestRow) : Prop := row.status = .pending ∨ row.status = .approved

instance (row : MintRequestRow) : Decidable (MintRequestOpen row) := by
  unfold MintRequestOpen
  infer_instance

/-- The rows that the check for an open request looks through. -/
def newestRequests (w : World) : List MintRequestRow := w.mintRequests.reverse.take 100

def HasOpenRequest (assetId : String) (w : World) : Prop :=
  ∃ row ∈ w.mintRequests, row.assetId = assetId ∧ MintRequestOpen row

def duplicateEntry : Error := .other "Duplicate entry"

def openRequestExists (row : MintRequestRow) : Error :=
  .trpc .conflict s!"A mint request for {row.assetId} already exists ({row.status.label})"

theorem getMintRequestByAssetId_run (hdb : env.databaseConfigured = true) (assetId : String) :
    (getMintRequestByAssetId env assetId).run w =
      (.ok ((newestRequests w).find? (·.assetId == assetId)), w) := by
  simp [getMintRequestByAssetId, listMintRequests, hdb, newestRequests]

theorem admitRequest_conflict (hdb : env.databaseConfigured = true) {row : MintRequestRow}
    (hfind : (newestRequests w).find? (·.assetId == input.assetId) = some row)
    (hopen : MintRequestOpen row) :
    ((admitRequest env uuid input actor owner custodian).run w).1 = .error (openRequestExists row) := by
  have hasset : row.assetId = input.assetId := by simpa using List.find?_some hfind
  have hassert : (assertNoOpenRequest env input.assetId).run w = (.error (openRequestExists row), w) := by
    unfold assertNoOpenRequest
    rw [Async.run_bind_ok (getMintRequestByAssetId_run hdb input.assetId), hfind]
    have hstatus : row.status = .pending ∨ row.status = .approved := hopen
    simp only
    rw [if_pos hstatus, openRequestExists, hasset]
    rfl
  rw [admitRequest, Async.run_bind_error hassert]

theorem assertNoOpenRequest_run (hdb : env.databaseConfigured = true)
    (hclosed : ∀ row, (newestRequests w).find? (·.assetId == input.assetId) = some row →
      ¬ MintRequestOpen row) : (assertNoOpenRequest env input.assetId).run w = (.ok (), w) := by
  unfold assertNoOpenRequest
  rw [Async.run_bind_ok (getMintRequestByAssetId_run hdb input.assetId)]
  cases hfind : (newestRequests w).find? (·.assetId == input.assetId) with
  | none => rfl
  | some row =>
    have hstatus : ¬ (row.status = .pending ∨ row.status = .approved) := hclosed row hfind
    simp only
    rw [if_neg hstatus]
    rfl

theorem insert_run_none {f : World → Option World} (hf : f w = none) :
    (Backend.insert f).run w = (.error duplicateEntry, w) := by
  simp [Backend.insert, hf, duplicateEntry]

theorem insert_run_some {f : World → Option World} {w' : World} (hf : f w = some w') :
    (Backend.insert f).run w = (.ok (), w') := by
  simp [Backend.insert, hf]

theorem admitRequest_duplicate (hdb : env.databaseConfigured = true)
    (hclosed : ∀ row, (newestRequests w).find? (·.assetId == input.assetId) = some row →
      ¬ MintRequestOpen row) {row : MintRequestRow} (hrow : row ∈ w.mintRequests)
    (hasset : row.assetId = input.assetId) :
    ((admitRequest env uuid input actor owner custodian).run w).1 = .error duplicateEntry := by
  have hinsert : insertMintRequest (mintRequestRow uuid (requested input actor owner custodian)) w =
      none := by
    apply if_pos
    exact List.any_eq_true.mpr ⟨row, hrow, by simp [hasset, mintRequestRow, requested]⟩
  have hcreate : (createMintRequest env uuid (requested input actor owner custodian)).run w =
      (.error duplicateEntry, w) := by
    rw [createMintRequest, if_neg (by simp [hdb]), Async.run_bind_error (insert_run_none hinsert)]
  rw [admitRequest, Async.run_bind_ok (assertNoOpenRequest_run hdb hclosed),
    Async.run_bind_error hcreate]

theorem admitRequest_accepted (hdb : env.databaseConfigured = true)
    (huuid : ∀ row ∈ w.mintRequests, row.id ≠ uuid)
    (hnone : ∀ row ∈ w.mintRequests, row.assetId ≠ input.assetId) :
    ((admitRequest env uuid input actor owner custodian).run w).1 =
      .ok (some (mintRequestRow uuid (requested input actor owner custodian))) := by
  have hclosed : ∀ row, (newestRequests w).find? (·.assetId == input.assetId) = some row →
      ¬ MintRequestOpen row := by
    intro row hfind
    have hmem := List.mem_of_find?_eq_some hfind
    have hrow : row ∈ w.mintRequests := List.mem_reverse.mp (List.mem_of_mem_take hmem)
    exact absurd (by simpa using List.find?_some hfind) (hnone row hrow)
  have hinsert : insertMintRequest (mintRequestRow uuid (requested input actor owner custodian)) w =
      some { w with mintRequests :=
        w.mintRequests ++ [mintRequestRow uuid (requested input actor owner custodian)] } := by
    refine if_neg fun hany => ?_
    obtain ⟨row, hrow, hsame⟩ := List.any_eq_true.mp hany
    rcases Bool.or_eq_true_iff.mp hsame with hid | hasset
    · exact huuid row hrow (by simpa [mintRequestRow] using hid)
    · exact hnone row hrow (by simpa [mintRequestRow, requested] using hasset)
  have hselect : (w.mintRequests ++ [mintRequestRow uuid (requested input actor owner custodian)]).find?
      (·.id == uuid) = some (mintRequestRow uuid (requested input actor owner custodian)) := by
    have hold : w.mintRequests.find? (·.id == uuid) = none := by
      simpa using huuid
    rw [List.find?_append, hold]
    simp [mintRequestRow]
  rw [admitRequest, Async.run_bind_ok (assertNoOpenRequest_run hdb hclosed), createMintRequest,
    if_neg (by simp [hdb]), Async.bind_assoc, Async.run_bind_ok (insert_run_some hinsert)]
  simp [selectMintRequest, hselect, auditMint, audit, createAuditEvent, hdb]

/-! ### What the call is for -/

/-- The request is accepted if and only if none for the asset is open, and an open one is reported as
a conflict. -/
structure AdmissionLaw (env : Environment) (user : Option ℕ) (uuid : String) (input : RequestInput)
    (w : World) : Prop where
  accepted : (∃ row, ((request env user uuid input).run w).1 = .ok row) ↔
    ¬ HasOpenRequest input.assetId w
  conflict : HasOpenRequest input.assetId w →
    ∃ message, ((request env user uuid input).run w).1 = .error (.trpc .conflict message)

open ManagerScope (managedWorld)

def vaseInput : RequestInput where
  assetId := "ASSET-1"
  name := "Vase"
  type := "ARTIFACT"
  classification := .sensitive
  description := none
  integrityHash := none
  ownerDid := "did:sampraan:member"
  custodianDid := "did:sampraan:member"

def registryManager : Actor where
  identity := managedWorld.identities.head (by decide)
  roles := ["MANAGER"]

def registryMember : Actor where
  identity := managedWorld.identities.tail.head (by decide)
  roles := []

def rejectedVase : MintRequestRow :=
  { mintRequestRow "first" (requested vaseInput registryManager registryMember registryMember) with
    status := .rejected
    decidedByIdentityId := some "admin"
    decisionReason := some "no photograph" }

/-- The request for the vase has been rejected. -/
def rejectedWorld : World := { managedWorld with mintRequests := [rejectedVase] }

theorem byManager_vase (rows : List MintRequestRow) : ByManager sampleEnvironment (some 1) vaseInput
    { managedWorld with mintRequests := rows } registryManager registryMember registryMember :=
  ⟨rfl, by decide, rfl, rfl, by decide, by decide⟩

end Sampraan.Governance.Mint
