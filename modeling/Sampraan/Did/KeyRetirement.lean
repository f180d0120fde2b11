import Sampraan.Did.ChallengeSoundness
import Sampraan.Did.StepUpLifecycle
import Sampraan.CryptoAssurance.Grants
import Mathlib.Data.Fintype.EquivFin

/-!
What the holder of the key that a rotation has replaced can still do. The
private key of a DID is the operator's for it, whatever the generation of the
key identifier, so a rotation replaces a name and not a key.
-/

namespace Sampraan.Did

open Backend Library CryptoAssurance
open Library.System (Continues)

/-- All that can be done with one private key. -/
structure KeyHolder (env : Environment) where
  address : String
  sign : String → String
  signs : ∀ message, env.ethers.verifyMessage message (sign message) = some address

/-- The address is the wallet that verifications of the DID expect. -/
def KeyHolder.Authenticates {env : Environment} (holder : KeyHolder env) (did operatorKey : String) :
    Prop :=
  toLowerCase holder.address = toLowerCase (deriveIdentityWallet env operatorKey did)

/-! ### The system -/

inductive KeyUseCall where
  | did (call : DidCall)
  | stepUp (call : StepUpCall)
  | assurance (call : AssuranceCall)

inductive KeyUseReply where
  | did (reply : DidReply)
  | stepUp (reply : StepUpReply)
  | assurance (reply : AssuranceReply)

def keyUseBody (env : Environment) : KeyUseCall → Promise KeyUseReply
  | .did call => do return .did (← didBody env call)
  | .stepUp call => do return .stepUp (← stepUpBody env call)
  | .assurance call => do return .assurance (← assuranceBody env call)

/-- What the rest of the application may do. -/
structure KeepsChallenges (env : Environment) (s t : World) : Prop where
  now : s.now ≤ t.now
  didChallenges : t.didChallenges = s.didChallenges
  stepUpSessions : t.stepUpSessions = s.stepUpSessions
  assuranceChallenges : t.assuranceChallenges = s.assuranceChallenges
  keys : ∀ did, ∀ key ∈ currentKey env did s, currentKey env did t = some key

def keyUseSystem (env : Environment) : System KeyUseCall World Error KeyUseReply where
  body := keyUseBody env
  interfere := KeepsChallenges env

abbrev KeyUseConfig := Config KeyUseCall World Error KeyUseReply

/-- The call verifies a challenge of the DID that this key has signed. -/
def KeyUseCall.SignedBy {env : Environment} (holder : KeyHolder env) (did operatorKey : String)
    (w : World) : KeyUseCall → Prop
  | .did (.verify input) => input.did = did ∧ input.operatorKey = operatorKey ∧
      input.signature ∈ Set.range holder.sign
  | .stepUp (.verify input) => (∃ identity ∈ identityById input.identityId w, identity.did = did) ∧
      input.operatorKey = operatorKey ∧ input.signature ∈ Set.range holder.sign
  | .assurance (.verify input) =>
      (∃ identity ∈ identityById input.identityId w, identity.did = did) ∧
        input.operatorKey = operatorKey ∧ input.ecdsaSignature ∈ Set.range holder.sign
  | _ => False

def KeyUseReply.Succeeded : KeyUseReply → Prop
  | .did (.verified (.ok _)) => True
  | .stepUp (.verified .ok) => True
  | .assurance (.verified (.ok ..)) => True
  | _ => False

/-- From here on no new verification succeeds for the DID with a signature of this key. -/
def OldKeyRetired {env : Environment} (holder : KeyHolder env) (did operatorKey : String) (w₀ : World)
    (c : KeyUseConfig) : Prop :=
  ∀ c', (keyUseSystem env).Reachable w₀ c' → Continues c c' → ∀ j call reply,
    c.threads j = none → c'.Returned j call reply → call.SignedBy holder did operatorKey c'.shared →
      ¬ reply.Succeeded

/-- The DID has a record that belongs to an identity, and an identity that carries it. -/
def Registered (did : String) (w : World) : Prop :=
  ∃ record ∈ didRecord did w, (identityById record.identityId w).isSome ∧
    (w.identities.find? (·.did == did)).isSome

variable {env : Environment} {did : String} {w : World}

/-! ### A verification with the old key -/

theorem didFailure_eq_none {record : DidRecordRow} {identity : IdentityRow}
    (hstatus : record.status = .active) (hkey : record.keyStatus = .active)
    (hactive : identity.status = .active) : didFailure (some (record, some identity)) = none := by
  simp [didFailure, hstatus, hkey, hactive]

theorem assertDidUsable_run (hconf : env.databaseConfigured = true) (h : DidUsable did w) :
    (assertDidUsable env did).run w = (.ok none, w) := by
  obtain ⟨record, hr, hstatus, hkey, identity, hi, hactive⟩ := h
  have hrow : w.didRecords.find? (·.did == did) = some record := hr
  have hidentity : w.identities.find? (·.id == record.identityId) = some identity := hi
  have hnone := didFailure_eq_none hstatus hkey hactive
  rw [assertDidUsable, hconf, if_neg (by simp), selectDidWithIdentity,
    Async.run_bind_ok (Async.run_query _ w), hrow, Option.map_some, hidentity, hnone]
  rfl

/-- The gates that DID challenges read do not depend on the challenges. -/
theorem DidUsable.of_eq {v : World} (h : DidUsable did w) (hi : v.identities = w.identities)
    (hr : v.didRecords = w.didRecords) : DidUsable did v := by
  rw [DidUsable, didRecord, hr, hi]
  exact h

theorem createDidChallenge_run (input : CreateDidChallengeInput)
    (hconf : env.databaseConfigured = true) (h : DidUsable input.did w)
    (hfree : w.didChallenges.all fun r => r.id != input.id && r.nonce != input.nonce) :
    ∃ keyId, currentKey env input.did w = some keyId ∧
      (createDidChallenge env input).run w =
        (.ok (.ok (challengeFor env input keyId w.now (w.now + challengeTtlMs))),
          { w with
            didChallenges := w.didChallenges ++ [(challengeFor env input keyId w.now
              (w.now + challengeTtlMs)).row (w.now + challengeTtlMs)] }) := by
  have hassert := assertDidUsable_run hconf h
  obtain ⟨record, hr, -⟩ := h
  have hrow : w.didRecords.find? (·.did == input.did) = some record := hr
  refine ⟨_, congrArg (Option.map _) hr, ?_⟩
  rw [createDidChallenge, Async.run_bind_ok hassert]
  dsimp only
  rw [selectDidRecord, Async.run_bind_ok (Async.run_query _ w), hrow]
  dsimp only
  rw [Async.run_bind_ok (Async.run_query _ w), Async.run_bind_ok (Async.run_query _ w),
    insertDidChallenge, Backend.insert, Async.bind_assoc,
    Async.run_bind_ok (Async.run_statement _ w)]
  simp only [DidChallenge.row, challengeFor, hfree, if_true]
  rfl

/-- The challenge after its consume, and nothing else that the checks read. -/
theorem find?_consumeChallengeIn {input : DidVerificationInput} {row : DidChallengeRow}
    (hrow : w.didChallenges.find? (·.nonce == input.nonce) = some row)
    (hans : answerable input w.now row = true) :
    (consumeChallengeIn input w).didChallenges.find? (·.nonce == input.nonce) =
      some { row with consumedAt := some w.now } := by
  have hfind : (consumeChallengeIn input w).didChallenges.find? (·.nonce == input.nonce) =
      (w.didChallenges.find? (·.nonce == input.nonce)).map fun r =>
        if answerable input w.now r then { r with consumedAt := some w.now } else r :=
    Table.find?_update_of_same fun _ => rfl
  rw [hfind, hrow, Option.map_some, if_pos hans]

theorem verifyDidChallenge_run (input : DidVerificationInput) {row : DidChallengeRow}
    {identity : IdentityRow} {keyId recovered : String} (hconf : env.databaseConfigured = true)
    (h : DidUsable input.did w) (hidentity : w.identities.find? (·.did == input.did) = some identity)
    (hrow : w.didChallenges.find? (·.nonce == input.nonce) = some row)
    (hans : answerable input w.now row = true) (haudience : row.audience = challengeAudience env)
    (hkey : currentKey env input.did w = some keyId) (hcurrent : row.keyIdentifier = some keyId)
    (hverify : env.ethers.verifyMessage row.message input.signature = some recovered)
    (hwallet : toLowerCase recovered =
      toLowerCase (deriveIdentityWallet env input.operatorKey input.did)) :
    ∃ success t, (verifyDidChallenge env input).run w = (.ok (.ok success), t) := by
  have hconsumed := find?_consumeChallengeIn hrow hans
  have hassert : (assertDidUsable env input.did).run (consumeChallengeIn input w) =
      (.ok none, consumeChallengeIn input w) :=
    assertDidUsable_run hconf (h.of_eq rfl rfl)
  obtain ⟨record, hr, hid⟩ := Option.map_eq_some_iff.mp hkey
  have hrecord : (consumeChallengeIn input w).didRecords.find? (·.did == input.did) = some record :=
    hr
  have hcarried : (consumeChallengeIn input w).identities.find? (·.did == input.did) =
      some identity := hidentity
  have haffected : Table.affectedRows (answerable input w.now) w.didChallenges ≠ 0 := fun hzero => by
    have hnone := Table.affectedRows_eq_zero.mp hzero row (List.mem_of_find?_eq_some hrow)
    simp [hans] at hnone
  have hsuperseded :
      superseded { row with consumedAt := some w.now } (currentKeyIdentifier env record) = false := by
    simp [superseded, hcurrent, hid]
  have hsigner : recoverSigner env input { row with consumedAt := some w.now } = .ok recovered := by
    rw [recoverSigner, hverify]
    exact if_neg (not_not.mpr hwallet)
  rw [verifyDidChallenge, hconf, if_neg (by simp), consumeDidChallenge,
    Async.run_bind_ok (Async.run_statement _ w)]
  dsimp only
  rw [if_neg haffected, verifyConsumedChallenge, Async.run_bind_ok hassert]
  dsimp only
  rw [Async.run_bind_ok (Async.run_query _ _), hconsumed]
  dsimp only
  rw [if_neg (not_not.mpr haudience), selectDidRecord, Async.run_bind_ok (Async.run_query _ _),
    hrecord]
  dsimp only
  rw [hsuperseded, if_neg (by simp), hsigner]
  dsimp only
  rw [Async.run_bind_ok (Async.run_query _ _), hcarried]
  exact ⟨_, _, rfl⟩

/-! ### No rotation retires a key -/

/-- Puts every identity, DID and key back into service. -/
def reactivate (w : World) : World :=
  { w with
    identities := w.identities.map fun r => { r with status := .active }
    didRecords := w.didRecords.map fun r => { r with status := .active, keyStatus := .active } }

theorem didRecord_reactivate (did : String) (w : World) : didRecord did (reactivate w) =
    (didRecord did w).map fun r => { r with status := .active, keyStatus := .active } :=
  List.find?_map ..

theorem reactivate_keepsChallenges (env : Environment) (w : World) :
    KeepsChallenges env w (reactivate w) := by
  refine ⟨le_rfl, rfl, rfl, rfl, fun did key hkey => ?_⟩
  obtain ⟨record, hr, rfl⟩ := Option.map_eq_some_iff.mp hkey
  rw [currentKey, didRecord_reactivate, hr]
  rfl

theorem usable_reactivate (h : Registered did w) : DidUsable did (reactivate w) ∧
    ((reactivate w).identities.find? (·.did == did)).isSome := by
  obtain ⟨record, hr, hidentity, hcarried⟩ := h
  obtain ⟨identity, hi⟩ := Option.isSome_iff_exists.mp hidentity
  constructor
  · refine ⟨{ record with status := .active, keyStatus := .active }, ?_, rfl, rfl,
      { identity with status := .active }, ?_, rfl⟩
    · rw [didRecord_reactivate, Option.mem_def.mp hr]
      rfl
    · have hfind : (reactivate w).identities.find? (·.id == record.identityId) =
          (identityById record.identityId w).map fun r => { r with status := .active } :=
        List.find?_map ..
      rw [hfind, hi]
      rfl
  · have hfind : (reactivate w).identities.find? (·.did == did) =
        (w.identities.find? (·.did == did)).map fun r => { r with status := .active } :=
      List.find?_map ..
    rwa [hfind, Option.isSome_map]

theorem create_run {input : CreateDidChallengeInput} {answer : Except DidAuthFailure DidChallenge}
    {v : World} (h : (createDidChallenge env input).run w = (.ok answer, v)) :
    (keyUseBody env (.did (.create input))).run w = (.ok (.did (.created answer)), v) := by
  rw [keyUseBody, didBody, Async.bind_assoc, Async.run_bind_ok h]
  rfl

theorem verify_run {input : DidVerificationInput} {v : World}
    {answer : Except DidAuthFailure DidVerificationSuccess}
    (h : (verifyDidChallenge env input).run w = (.ok answer, v)) :
    (keyUseBody env (.did (.verify input))).run w = (.ok (.did (.verified answer)), v) := by
  rw [keyUseBody, didBody, Async.bind_assoc, Async.run_bind_ok h]
  rfl

theorem exists_fresh (texts : List String) : ∃ text, text ∉ texts := by
  obtain ⟨text, htext⟩ := Infinite.exists_notMem_finset texts.toFinset
  exact ⟨text, by simpa using htext⟩

theorem databaseConfigured_of_rotated {w₀ : World} {c : KeyUseConfig}
    (hc : (keyUseSystem env).Reachable w₀ c) {i : ℕ} {note : String} {rotation : KeyRotation}
    (h : c.Returned i (.did (.rotate did note)) (.did (.rotated (.ok rotation)))) :
    env.databaseConfigured = true := by
  by_contra hconf
  have hbody : (keyUseSystem env).body (.did (.rotate did note)) =
      .fulfilled (.did (.rotated (.error "Database unavailable"))) := by
    show keyUseBody env (.did (.rotate did note)) = _
    rw [keyUseBody, didBody, rotateDidKey, if_pos (by simpa using hconf)]
    rfl
  have hpromise := hc.promise_eq h
  rw [hbody, Async.after_fulfilled] at hpromise
  simp at hpromise

section

variable {w₀ : World} {c : KeyUseConfig}

/-- The challenge can be answered by whoever signs its message. -/
structure Pending (env : Environment) (did : String) (row : DidChallengeRow) (w : World) : Prop where
  stored : w.didChallenges.find? (·.nonce == row.nonce) = some row
  own : row.did = did
  purpose : row.purpose = .authentication
  unconsumed : row.consumedAt = none
  unexpired : w.now < row.expiresAt
  audience : row.audience = challengeAudience env
  key : ∃ keyId, currentKey env did w = some keyId ∧ row.keyIdentifier = some keyId

theorem pending_issued (input : CreateDidChallengeInput) {keyId : String}
    (hpurpose : input.purpose = .authentication) (hkey : currentKey env input.did w = some keyId)
    (hfree : ∀ r ∈ w.didChallenges, r.nonce ≠ input.nonce) {challenge : DidChallenge}
    (hchallenge : challenge = challengeFor env input keyId w.now (w.now + challengeTtlMs)) :
    Pending env input.did (challenge.row (w.now + challengeTtlMs))
      { w with didChallenges := w.didChallenges ++ [challenge.row (w.now + challengeTtlMs)] } := by
  subst hchallenge
  refine ⟨?_, rfl, hpurpose, rfl, ?_, rfl, keyId, hkey, rfl⟩
  · have hold : w.didChallenges.find? (·.nonce == input.nonce) = none :=
      List.find?_eq_none.mpr fun r hr => by simpa using hfree r hr
    simp [DidChallenge.row, challengeFor, hold]
  · show w.now < w.now + challengeTtlMs
    simp [challengeTtlMs]

/-- Anyone can have a challenge issued for a DID that is in use. -/
theorem exists_pending (hc : (keyUseSystem env).Reachable w₀ c) (hconf : env.databaseConfigured = true)
    (h : DidUsable did c.shared) {n : ℕ} (hn : c.threads n = none) :
    ∃ c' row, (keyUseSystem env).Reachable w₀ c' ∧ Continues c c' ∧
      (∀ j, j ≠ n → c'.threads j = c.threads j) ∧ Pending env did row c'.shared ∧
        c'.shared.identities = c.shared.identities ∧ c'.shared.didRecords = c.shared.didRecords := by
  obtain ⟨text, htext⟩ := exists_fresh
    (c.shared.didChallenges.map (·.id) ++ c.shared.didChallenges.map (·.nonce))
  simp only [List.mem_append, List.mem_map, not_or, not_exists, not_and] at htext
  let creation : CreateDidChallengeInput := { did := did, id := text, nonce := text }
  have hfree : c.shared.didChallenges.all fun r => r.id != creation.id && r.nonce != creation.nonce :=
    List.all_eq_true.mpr fun r hr => by simpa using ⟨htext.1 r hr, htext.2 r hr⟩
  obtain ⟨keyId, hkey, hcreate⟩ := createDidChallenge_run creation hconf h hfree
  obtain ⟨c', hc', hcont, -, hshared, hothers⟩ :=
    hc.call_run (k := .did (.create creation)) hn (create_run hcreate)
  have hpending := pending_issued creation rfl hkey htext.2 rfl
  exact ⟨c', _, hc', hcont, hothers, hshared.symm ▸ hpending, by rw [hshared], by rw [hshared]⟩

/-- The holder of a key that the DID's verifications expect answers it. -/
theorem exists_verified {holder : KeyHolder env} {operatorKey : String} {row : DidChallengeRow}
    (hc : (keyUseSystem env).Reachable w₀ c) (hconf : env.databaseConfigured = true)
    (h : DidUsable did c.shared) (hcarried : (c.shared.identities.find? (·.did == did)).isSome)
    (hrow : Pending env did row c.shared) (hholder : holder.Authenticates did operatorKey) {n : ℕ}
    (hn : c.threads n = none) :
    ∃ c' input success, (keyUseSystem env).Reachable w₀ c' ∧ Continues c c' ∧
      c'.Returned n (.did (.verify input)) (.did (.verified (.ok success))) ∧
        (KeyUseCall.did (.verify input)).SignedBy holder did operatorKey c'.shared := by
  obtain ⟨identity, hidentity⟩ := Option.isSome_iff_exists.mp hcarried
  obtain ⟨keyId, hkey, hcurrent⟩ := hrow.key
  let input : DidVerificationInput :=
    { did := did
      nonce := row.nonce
      signature := holder.sign row.message
      operatorKey := operatorKey }
  have hans : answerable input c.shared.now row = true :=
    answerable_eq_true.mpr ⟨rfl, hrow.own, hrow.purpose, hrow.unconsumed, hrow.unexpired⟩
  obtain ⟨success, t, hverify⟩ := verifyDidChallenge_run input hconf h hidentity hrow.stored
    hans hrow.audience hkey hcurrent (holder.signs _) hholder
  obtain ⟨c', hc', hcont, hreturned, -⟩ :=
    hc.call_run (k := .did (.verify input)) hn (verify_run hverify)
  exact ⟨c', input, success, hc', hcont, hreturned, rfl, rfl, _, rfl⟩

/-- At no moment at which a rotation has returned ok is the key retired that authenticated the DID
before. -/
theorem not_oldKeyRetired {holder : KeyHolder env} {operatorKey : String}
    (hc : (keyUseSystem env).Reachable w₀ c) {i : ℕ} {note : String} {rotation : KeyRotation}
    (hrotated : c.Returned i (.did (.rotate did note)) (.did (.rotated (.ok rotation))))
    (hholder : holder.Authenticates did operatorKey) (hregistered : Registered did c.shared) :
    ¬ OldKeyRetired holder did operatorKey w₀ c := by
  intro hretired
  have hconf := databaseConfigured_of_rotated hc hrotated
  obtain ⟨n, hfree⟩ := hc.exists_free
  -- a DID that is out of service by now comes back
  have hback := System.Step.interfere (M := keyUseSystem env) (c := c) reactivate
    (reactivate_keepsChallenges env c.shared)
  obtain ⟨husable, hcarried⟩ := usable_reactivate hregistered
  obtain ⟨c₁, row, hc₁, hcont₁, hothers, hrow, hids, hrecs⟩ :=
    exists_pending (hc.step trivial hback) hconf husable (hfree n le_rfl)
  have hnext : c₁.threads (n + 1) = none :=
    (hothers (n + 1) (by omega)).trans (hfree (n + 1) (by omega))
  obtain ⟨c₂, input, success, hc₂, hcont₂, hreturned, hsigned⟩ :=
    exists_verified hc₁ hconf (husable.of_eq hids hrecs) (by rwa [hids]) hrow hholder hnext
  exact hretired c₂ hc₂ ((hback.continues.trans hcont₁).trans hcont₂) (n + 1) _ _
    (hfree (n + 1) (by omega)) hreturned hsigned trivial

end

/-! ### A sample run -/

def sampleHolder : KeyHolder sampleEnvironment where
  address := "0xA11CE"
  sign := fun _ => "signed by the holder"
  signs := fun _ => rfl

abbrev sampleKeyUseSystem := keyUseSystem sampleEnvironment

def rotatedRun : Option KeyUseConfig :=
  sampleKeyUseSystem.exec (fun _ _ => True) (Config.initial sampleWorld)
    (System.sequence 0 [(.did (.rotate "did:sampraan:holder" "routine"), 2)])

def sampleRotation : KeyRotation where
  did := "did:sampraan:holder"
  previousKeyIdentifier := "key-1"
  newKeyIdentifier := "key-2-5ca1ab1e5ca1"

theorem sampleHolder_authenticates : sampleHolder.Authenticates "did:sampraan:holder" "0x01" := rfl

theorem not_oldKeyRetired_sample : ∃ c, sampleKeyUseSystem.Reachable sampleWorld c ∧
    c.Returned 0 (.did (.rotate "did:sampraan:holder" "routine"))
      (.did (.rotated (.ok sampleRotation))) ∧
        ¬ OldKeyRetired sampleHolder "did:sampraan:holder" "0x01" sampleWorld c := by
  have hrun : rotatedRun.isSome := by rfl
  have hc := System.exec_reach (fun m hm => System.harmless_of_mem_sequence hm)
    (Option.some_get hrun).symm
  have hregistered : Registered "did:sampraan:holder" (rotatedRun.get hrun).shared :=
    ⟨_, rfl, rfl, rfl⟩
  exact ⟨rotatedRun.get hrun, hc, rfl,
    not_oldKeyRetired hc (i := 0) rfl sampleHolder_authenticates hregistered⟩

def oldKeyRun : Option KeyUseConfig :=
  rotatedRun.bind fun c => sampleKeyUseSystem.exec (fun _ _ => True) c
    (System.sequence 1 [(.did (.create sampleCreation), 5), (.did (.verify sampleDidVerification), 5)])

/-- After the rotation the old key answers a challenge that names the new one. -/
theorem oldKey_verifies : ∃ c c', sampleKeyUseSystem.Reachable sampleWorld c ∧
    c.Returned 0 (.did (.rotate "did:sampraan:holder" "routine"))
      (.did (.rotated (.ok sampleRotation))) ∧
        sampleKeyUseSystem.Reachable sampleWorld c' ∧
          c'.Returned 2 (.did (.verify sampleDidVerification))
            (.did (.verified (.ok (verifiedDid "key-2-5ca1ab1e5ca1")))) ∧
              ¬ OldKeyRetired sampleHolder "did:sampraan:holder" "0x01" sampleWorld c := by
  have hrun : oldKeyRun.isSome := by rfl
  obtain ⟨c, hfirst, hrest⟩ := Option.bind_eq_some_iff.mp (Option.some_get hrun).symm
  have hc := System.exec_reach (fun m hm => System.harmless_of_mem_sequence hm) hfirst
  obtain ⟨hc', hcont⟩ :=
    System.exec_continues hc (fun m hm => System.harmless_of_mem_sequence hm) hrest
  obtain rfl : c = rotatedRun.get (by rfl) := Option.some.inj (hfirst.symm.trans (Option.some_get _).symm)
  refine ⟨_, _, hc, rfl, hc', rfl, fun hretired => ?_⟩
  exact hretired _ hc' hcont 2 _ _ rfl rfl ⟨rfl, rfl, "", rfl⟩ trivial

end Sampraan.Did
