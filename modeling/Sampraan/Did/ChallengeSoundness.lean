import Sampraan.Did.Challenge
import Sampraan.Did.KeyLifecycle

/-!
The challenges of any DIDs as a system of overlapping calls, together with the
rotations and revocations of their keys: what a verification has established.
-/

namespace Sampraan.Did

open Backend Library
open Library.System (Reach Admits)

/-! ### The key that a challenge names -/

def keyNumber (keyIdentifier : String) : ℕ := (keyGeneration keyIdentifier).getD 1

def currentKey (env : Environment) (did : String) (w : World) : Option String :=
  (didRecord did w).map (currentKeyIdentifier env)

/-- The key was the DID's current one, or is. -/
def ReachedKey (env : Environment) (did keyId : String) (w : World) : Prop :=
  ∃ key ∈ currentKey env did w, key = keyId ∨ keyNumber keyId < keyNumber key

/-- The DID has a later key. -/
def PassedKey (env : Environment) (did keyId : String) (w : World) : Prop :=
  ∃ key ∈ currentKey env did w, keyNumber keyId < keyNumber key

/-- The step keeps the key of every DID, or moves it on to a later one. -/
def KeysAdvance (env : Environment) (s t : World) : Prop :=
  ∀ did, ∀ key ∈ currentKey env did s,
    ∃ key' ∈ currentKey env did t, key' = key ∨ keyNumber key < keyNumber key'

/-- No record has the empty key identifier, which would pass for none. -/
def NamedKeys (env : Environment) (w : World) : Prop :=
  ∀ did, ∀ key ∈ currentKey env did w, key ≠ ""

variable {env : Environment} {did keyId : String} {s t : World}

theorem KeysAdvance.of_eq (h : t.didRecords = s.didRecords) : KeysAdvance env s t := by
  intro did key hkey
  refine ⟨key, ?_, .inl rfl⟩
  rwa [currentKey, didRecord, h]

theorem ReachedKey.advance (h : ReachedKey env did keyId s) (hst : KeysAdvance env s t) :
    ReachedKey env did keyId t := by
  obtain ⟨key, hkey, hle⟩ := h
  obtain ⟨key', hkey', hle'⟩ := hst did key hkey
  refine ⟨key', hkey', ?_⟩
  rcases hle with rfl | hlt
  · exact hle'
  · rcases hle' with rfl | hlt'
    · exact .inr hlt
    · exact .inr (hlt.trans hlt')

theorem PassedKey.advance (h : PassedKey env did keyId s) (hst : KeysAdvance env s t) :
    PassedKey env did keyId t := by
  obtain ⟨key, hkey, hlt⟩ := h
  obtain ⟨key', hkey', hle'⟩ := hst did key hkey
  refine ⟨key', hkey', ?_⟩
  rcases hle' with rfl | hlt'
  · exact hlt
  · exact hlt.trans hlt'

/-! ### The system -/

inductive DidCall where
  | create (input : CreateDidChallengeInput)
  | verify (input : DidVerificationInput)
  | rotate (did note : String)
  | setStatus (did : String) (switch : KeySwitch)

inductive DidReply where
  | created (answer : Except DidAuthFailure DidChallenge)
  | verified (answer : Except DidAuthFailure DidVerificationSuccess)
  | rotated (answer : Except String KeyRotation)
  | statusSet (answer : Except String Unit)

def didBody (env : Environment) : DidCall → Promise DidReply
  | .create input => do return .created (← createDidChallenge env input)
  | .verify input => do return .verified (← verifyDidChallenge env input)
  | .rotate did note => do return .rotated (← rotateDidKey env did note)
  | .setStatus did switch => do return .statusSet (← setDidKeyStatus env did switch)

/-- What the rest of the application may do: it registers DIDs, and changes their status and that of
the identities, but not the challenges and the keys. -/
structure StatusChanges (env : Environment) (s t : World) : Prop where
  didChallenges : t.didChallenges = s.didChallenges
  keys : ∀ did, ∀ key ∈ currentKey env did s, currentKey env did t = some key
  named : NamedKeys env s → NamedKeys env t

def didSystem (env : Environment) : System DidCall World Error DidReply where
  body := didBody env
  interfere := StatusChanges env

abbrev DidConfig := Config DidCall World Error DidReply

theorem StatusChanges.keysAdvance (h : StatusChanges env s t) : KeysAdvance env s t :=
  fun did key hkey => ⟨key, h.keys did key hkey, .inl rfl⟩

/-! ### What the calls do -/

/-- The insert of a challenge for the key that the call has read. -/
def Issues (env : Environment) (input : CreateDidChallengeInput) (h : List (World × World))
    (s t : World) : Prop :=
  ∃ challenge expiresAt, t = { s with
      didChallenges := s.didChallenges ++ [DidChallenge.row challenge expiresAt] } ∧
    (∀ r ∈ s.didChallenges, r.nonce ≠ challenge.nonce) ∧ challenge.did = input.did ∧
      ∃ e ∈ h, currentKey env input.did e.1 = some challenge.keyIdentifier

def DidCall.Effect (env : Environment) : DidCall → List (World × World) → World → World → Prop
  | .create input => fun h s t => t = s ∨ Issues env input h s t
  | .verify input => fun _ s t => t = s ∨ t = consumeChallengeIn input s
  | .rotate did note => (KeyCall.rotate note).Effect env did
  | .setStatus did switch => (KeyCall.setStatus switch).Effect env did

def DidUsable (did : String) (w : World) : Prop :=
  ∃ record ∈ didRecord did w, record.status = .active ∧ record.keyStatus = .active ∧
    ∃ identity ∈ w.identities.find? (·.id == record.identityId), identity.status = .active

instance (did : String) : DecidablePred (DidUsable did) := fun w =>
  inferInstanceAs (Decidable (∃ record ∈ didRecord did w, record.status = .active ∧
    record.keyStatus = .active ∧
      ∃ identity ∈ w.identities.find? (·.id == record.identityId), identity.status = .active))

/-- The signature recovers over the challenge's message to the wallet of the DID. -/
def SignedByWallet (env : Environment) (input : DidVerificationInput) (challenge : DidChallengeRow) :
    Prop :=
  ∃ recovered, env.ethers.verifyMessage challenge.message input.signature = some recovered ∧
    toLowerCase recovered = toLowerCase (deriveIdentityWallet env input.operatorKey input.did)

/-- What the checks after the consume have established, each where it read. -/
structure Passes (env : Environment) (input : DidVerificationInput) (challenge : DidChallengeRow)
    (w₁ w₂ w₃ : World) : Prop where
  usable : DidUsable input.did w₁
  row : w₂.didChallenges.find? (·.nonce == input.nonce) = some challenge
  audience : challenge.audience = challengeAudience env
  key : ∃ key ∈ currentKey env input.did w₃, superseded challenge key = false
  signed : SignedByWallet env input challenge

/-- What a successful `verifyDidChallenge` has found at its statements. -/
def Verifies (env : Environment) (input : DidVerificationInput) (h : List (World × World)) : Prop :=
  ∃ s e₁ e₂ e₃ e₄ challenge, h = [(s, consumeChallengeIn input s), e₁, e₂, e₃, e₄] ∧
    s.didChallenges.any (answerable input s.now) = true ∧ Passes env input challenge e₁.1 e₂.1 e₃.1

def DidCall.Answer (env : Environment) : DidCall → DidReply → List (World × World) → Prop
  | .verify input, .verified (.ok _), h => Verifies env input h
  | _, _, _ => True

theorem didUsable_of_didFailure {record : DidRecordRow} {identity : Option IdentityRow}
    (h : didFailure (some (record, identity)) = none) : record.status = .active ∧
      record.keyStatus = .active ∧ ∃ identity' ∈ identity, identity'.status = .active := by
  simp only [didFailure] at h
  split at h
  · cases h
  rename_i hrevoked
  split at h
  · cases h
  rename_i hrotated
  simp only [not_or] at hrevoked
  refine ⟨?_, ?_, ?_⟩
  · cases hs : record.status with
    | active => rfl
    | revoked => exact absurd hs hrevoked.1
  · cases hs : record.keyStatus with
    | active => rfl
    | rotated => exact absurd hs hrotated
    | revoked => exact absurd hs hrevoked.2
  · cases identity with
    | none => cases h
    | some identity =>
      simp only [ite_eq_right_iff, reduceCtorEq, imp_false, not_not] at h
      exact ⟨identity, rfl, h⟩

theorem signedByWallet {input : DidVerificationInput} {challenge : DidChallengeRow}
    {recovered : String} (h : recoverSigner env input challenge = .ok recovered) :
    SignedByWallet env input challenge := by
  rw [recoverSigner] at h
  cases hv : env.ethers.verifyMessage challenge.message input.signature with
  | none => simp [hv] at h
  | some address =>
    simp only [hv] at h
    split at h
    · cases h
    · rename_i hwallet
      exact ⟨address, hv, not_not.mp hwallet⟩

section

variable {Q : List (World × World) → World → World → Prop} {h : List (World × World)}

theorem assertDidUsable_yields (hq : ∀ h s, Q h s s) :
    (assertDidUsable env did).Yields Q
      (fun failure h' => failure = none → ∃ e, h' = h ++ [e] ∧ DidUsable did e.1) h := by
  refine .ite (fun _ => .fulfilled fun hnone => by cases hnone) fun _ => ?_
  refine Async.yields_query_bind (hq h) fun s => .fulfilled fun hnone => ⟨(s, s), rfl, ?_⟩
  cases hr : s.didRecords.find? (·.did == did) with
  | none =>
    rw [hr] at hnone
    cases hnone
  | some record =>
    rw [hr] at hnone
    exact ⟨record, hr, didUsable_of_didFailure hnone⟩

theorem insertDidChallenge_recalls {row : DidChallengeRow} (hsame : ∀ s, Q h s s)
    (hins : ∀ s, (∀ r ∈ s.didChallenges, r.nonce ≠ row.nonce) →
      Q h s { s with didChallenges := s.didChallenges ++ [row] }) :
    (insertDidChallenge row).Recalls Q h := by
  refine Async.Recalls.bind (Async.yields_statement (fun s => ?_) fun _ => trivial) fun done _ _ =>
    .ite (fun _ => .fulfilled trivial) fun _ => .rejected _ _
  by_cases hfree : s.didChallenges.all fun r => r.id != row.id && r.nonce != row.nonce
  · simp only [hfree, if_true]
    refine hins s fun r hr => ?_
    have hnew := List.all_eq_true.mp hfree r hr
    simp only [Bool.and_eq_true, bne_iff_ne] at hnew
    exact hnew.2
  · simpa [hfree] using hsame s

theorem createDidChallenge_recalls {input : CreateDidChallengeInput} :
    (createDidChallenge env input).Recalls ((DidCall.create input).Effect env) [] := by
  refine Async.Recalls.bind ((assertDidUsable_yields fun _ _ => .inl rfl).weaken
    fun _ _ _ => trivial) fun failure h _ => ?_
  cases failure with
  | some failure => exact .fulfilled trivial
  | none =>
    refine Async.yields_query_bind (fun _ => .inl rfl) fun s => ?_
    cases hr : s.didRecords.find? (·.did == input.did) with
    | none => exact .fulfilled trivial
    | some record =>
      refine Async.yields_query_bind (fun _ => .inl rfl) fun s₁ => ?_
      refine Async.yields_query_bind (fun _ => .inl rfl) fun s₂ => ?_
      refine Async.Recalls.bind (insertDidChallenge_recalls (fun _ => .inl rfl) fun s₃ hfree => ?_)
        fun _ _ _ => .fulfilled trivial
      refine .inr ⟨_, _, rfl, hfree, rfl, (s, s), by simp, ?_⟩
      rw [currentKey, didRecord, hr]
      rfl

theorem verifyConsumedChallenge_yields {input : DidVerificationInput} {e : World × World} :
    (verifyConsumedChallenge env input).Yields ((DidCall.verify input).Effect env)
      (fun answer h => ∀ success, answer = .ok success → ∃ e₁ e₂ e₃ e₄ challenge,
        h = [e, e₁, e₂, e₃, e₄] ∧ Passes env input challenge e₁.1 e₂.1 e₃.1) [e] := by
  refine Async.Yields.bind (assertDidUsable_yields fun _ _ => .inl rfl) fun failure h hh => ?_
  cases failure with
  | some failure => exact .fulfilled fun _ hok => by cases hok
  | none =>
    obtain ⟨e₁, rfl, husable⟩ := hh rfl
    refine Async.yields_query_bind (fun _ => .inl rfl) fun s₂ => ?_
    cases hc : s₂.didChallenges.find? (·.nonce == input.nonce) with
    | none => exact .fulfilled fun _ hok => by cases hok
    | some challenge =>
      refine .ite (fun _ => .fulfilled fun _ hok => by cases hok) fun haudience => ?_
      refine Async.yields_query_bind (fun _ => .inl rfl) fun s₃ => ?_
      cases hr : s₃.didRecords.find? (·.did == input.did) with
      | none => exact .fulfilled fun _ hok => by cases hok
      | some record =>
        refine .ite (fun _ => .fulfilled fun _ hok => by cases hok) fun hsuperseded => ?_
        cases hs : recoverSigner env input challenge with
        | error failure => exact .fulfilled fun _ hok => by cases hok
        | ok recovered =>
          refine Async.yields_query_bind (fun _ => .inl rfl) fun s₄ => ?_
          cases s₄.identities.find? (·.did == input.did) with
          | none => exact .fulfilled fun _ hok => by cases hok
          | some identity =>
            refine .fulfilled fun _ _ => ⟨e₁, (s₂, s₂), (s₃, s₃), (s₄, s₄), challenge, by simp, husable,
              hc, not_not.mp haudience, ⟨_, ?_, by simpa using hsuperseded⟩, signedByWallet hs⟩
            rw [currentKey, didRecord, hr]
            rfl

theorem verifyDidChallenge_yields {input : DidVerificationInput} :
    (verifyDidChallenge env input).Yields ((DidCall.verify input).Effect env)
      (fun answer h => (DidCall.verify input).Answer env (.verified answer) h) [] := by
  refine .ite (fun _ => .fulfilled trivial) fun _ => ?_
  refine Async.yields_statement_bind (fun _ => .inr rfl) fun s =>
    .ite (fun _ => .fulfilled trivial) fun hne => ?_
  have hany : s.didChallenges.any (answerable input s.now) = true := by
    simp only [Table.affectedRows_eq_zero, not_forall, Bool.not_eq_false] at hne
    obtain ⟨row, hrow, hrun⟩ := hne
    exact List.any_eq_true.mpr ⟨row, hrow, hrun⟩
  refine verifyConsumedChallenge_yields.weaken fun answer h hh => ?_
  cases answer with
  | error failure => trivial
  | ok success =>
    obtain ⟨e₁, e₂, e₃, e₄, challenge, rfl, hpasses⟩ := hh success rfl
    exact ⟨s, e₁, e₂, e₃, e₄, challenge, rfl, hany, hpasses⟩

theorem did_yields (env : Environment) (call : DidCall) :
    ((didSystem env).body call).Yields (call.Effect env) (call.Answer env) [] := by
  cases call with
  | create input => exact createDidChallenge_recalls.bind fun _ _ _ => .fulfilled trivial
  | verify input => exact verifyDidChallenge_yields.bind fun _ _ hh => .fulfilled hh
  | rotate did note => exact rotateDidKey_recalls.bind fun _ _ _ => .fulfilled trivial
  | setStatus did switch => exact setDidKeyStatus_recalls.bind fun _ _ _ => .fulfilled trivial

theorem did_recalls (env : Environment) (call : DidCall) :
    ((didSystem env).body call).Recalls (call.Effect env) [] :=
  (did_yields env call).weaken fun _ _ _ => trivial

end

/-! ### The table of challenges -/

def UniqueChallenges (w : World) : Prop := Table.UniqueKey DidChallengeRow.nonce w.didChallenges

/-- All of the challenge that an update leaves alone, and that it stays consumed. -/
def KeptChallenge (r r' : DidChallengeRow) : Prop :=
  { r' with consumedAt := r.consumedAt } = r ∧ (r.consumedAt.isSome → r'.consumedAt.isSome)

theorem KeptChallenge.refl (r : DidChallengeRow) : KeptChallenge r r := ⟨rfl, id⟩

theorem KeptChallenge.trans {r r' r'' : DidChallengeRow} (h : KeptChallenge r r')
    (h' : KeptChallenge r' r'') : KeptChallenge r r'' := by
  refine ⟨?_, h'.2 ∘ h.2⟩
  rw [← h.1, ← h'.1]

abbrev ChallengesEvolve (s t : World) : Prop :=
  Table.Evolves DidChallengeRow.nonce KeptChallenge s.didChallenges t.didChallenges

theorem ChallengesEvolve.of_eq (h : t.didChallenges = s.didChallenges) : ChallengesEvolve s t :=
  Table.Evolves.of_eq KeptChallenge.refl h

theorem consume_evolves (input : DidVerificationInput) (s : World) :
    ChallengesEvolve s (consumeChallengeIn input s) :=
  Table.Evolves.update KeptChallenge.refl (fun _ => rfl) fun _ _ => ⟨rfl, fun _ => rfl⟩

theorem Issues.evolves {input : CreateDidChallengeInput} {h : List (World × World)}
    (hi : Issues env input h s t) : ChallengesEvolve s t := by
  obtain ⟨challenge, expiresAt, rfl, hfree, -⟩ := hi
  exact Table.Evolves.append KeptChallenge.refl hfree

theorem commit_didChallenges {call : KeyCall} {read : DidRecordRow} :
    (call.commit env did read s).didChallenges = s.didChallenges := by
  cases call <;> rfl

theorem KeyCall.Effect.didChallenges {call : KeyCall} {h : List (World × World)}
    (he : call.Effect env did h s t) : t.didChallenges = s.didChallenges := by
  rcases he with rfl | ⟨e, -, read, -, rfl⟩
  · rfl
  · exact commit_didChallenges

theorem DidCall.Effect.evolves {call : DidCall} {h : List (World × World)}
    (he : call.Effect env h s t) : ChallengesEvolve s t := by
  cases call with
  | create input => exact he.elim (fun h => .of_eq (h ▸ rfl)) Issues.evolves
  | verify input =>
    rcases he with rfl | rfl
    · exact .of_eq rfl
    · exact consume_evolves input s
  | rotate did note => exact .of_eq (KeyCall.Effect.didChallenges he)
  | setStatus did switch => exact .of_eq (KeyCall.Effect.didChallenges he)

theorem did_discipline (env : Environment) :
    (didSystem env).Discipline UniqueChallenges ChallengesEvolve where
  body call := (did_recalls env call).obeys fun _ _ _ _ he => he.evolves
  interfere _ _ _ h := .of_eq h.didChallenges
  keep _ _ hs h := h.unique hs

theorem exists_kept {r : DidChallengeRow} (h : Relation.ReflTransGen ChallengesEvolve s t)
    (hr : r ∈ s.didChallenges) : ∃ r' ∈ t.didChallenges, KeptChallenge r r' :=
  Table.exists_evolved KeptChallenge.refl (fun _ _ _ => KeptChallenge.trans) (fun _ _ h => h) h hr

/-! ### The keys while rotations commit on what they have read -/

/-- The rotation, about to commit, still finds the key that it has read, or already its own. -/
def DidCall.Current (env : Environment) (call : DidCall) (h : List (World × World)) (s : World) :
    Prop :=
  match call with
  | .rotate did _ => ∀ e ∈ h, ∀ read ∈ didRecord did e.1, ∀ record ∈ didRecord did s,
      currentKeyIdentifier env record = currentKeyIdentifier env read ∨
        currentKeyIdentifier env record = (rotationFrom env did read).newKeyIdentifier
  | _ => True

instance DidCall.Current.decidable (env : Environment) (call : DidCall) (h : List (World × World))
    (s : World) : Decidable (call.Current env h s) :=
  match call with
  | .create _ | .verify _ | .setStatus _ _ => .isTrue trivial
  | .rotate did _ => inferInstanceAs (Decidable (∀ e ∈ h, ∀ read ∈ didRecord did e.1,
      ∀ record ∈ didRecord did s, _ ∨ _))

theorem keyIdentifierFor_ne_empty (did : String) (n : ℕ) : keyIdentifierFor env did n ≠ "" := by
  intro h
  have hlist := congrArg String.toList h
  simp [keyIdentifierFor] at hlist

theorem commit_didRecords {call : KeyCall} {read : DidRecordRow} :
    (call.commit env did read s).didRecords =
      Table.update (·.did == did) (call.written env did read) s.didRecords := by
  cases call <;> rfl

theorem currentKey_commit_of_ne {call : KeyCall} {read : DidRecordRow} {did' : String}
    (hne : did' ≠ did) : currentKey env did' (call.commit env did read s) = currentKey env did' s := by
  have hfind : didRecord did' (call.commit env did read s) = (didRecord did' s).map fun r =>
      if r.did == did then call.written env did read r else r := by
    rw [didRecord, commit_didRecords]
    apply Table.find?_update_of_same
    intro r
    cases call <;> rfl
  rw [currentKey, hfind, currentKey]
  cases hr : didRecord did' s with
  | none => rfl
  | some record => simp [didRecord_did hr, hne]

/-- Only a rotation changes a key, and only that of its own DID. -/
theorem currentKey_commit (call : KeyCall) (read : DidRecordRow) (w : World) (did' : String) :
    currentKey env did' (call.commit env did read w) = currentKey env did' w ∨
      did' = did ∧ (∃ note, call = .rotate note) ∧
        ∀ key ∈ currentKey env did' (call.commit env did read w),
          key = (rotationFrom env did read).newKeyIdentifier := by
  by_cases hdid : did' = did
  · subst hdid
    cases call with
    | rotate note =>
      refine .inr ⟨rfl, ⟨note, rfl⟩, fun key hkey => ?_⟩
      rw [currentKey, didRecord_commit, Option.map_map] at hkey
      obtain ⟨record, -, rfl⟩ := Option.map_eq_some_iff.mp hkey
      rfl
    | setStatus switch =>
      left
      rw [currentKey, didRecord_commit, Option.map_map]
      rfl
  · exact .inl (currentKey_commit_of_ne hdid)

theorem keyNumber_new (env : Environment) (did : String) (read : DidRecordRow) :
    keyNumber (rotationFrom env did read).newKeyIdentifier =
      keyNumber (currentKeyIdentifier env read) + 1 := by
  rw [keyNumber, generation_new, Option.getD_some, keyNumber]

theorem rotate_keysAdvance {note : String} {h : List (World × World)}
    (he : (KeyCall.rotate note).Effect env did h s t)
    (hcurrent : (DidCall.rotate did note).Current env h s) : KeysAdvance env s t := by
  rcases he with rfl | ⟨e, he, read, hread, rfl⟩
  · exact .of_eq rfl
  · intro did' key hkey
    by_cases hdid : did' = did
    · subst hdid
      obtain ⟨record, hrecord, rfl⟩ := Option.map_eq_some_iff.mp hkey
      refine ⟨(rotationFrom env did' read).newKeyIdentifier, ?_, ?_⟩
      · rw [currentKey, didRecord_commit, Option.map_map]
        exact congrArg (Option.map _) hrecord
      · rcases hcurrent e he read hread record hrecord with hsame | hnew
        · right
          rw [hsame, keyNumber_new]
          omega
        · exact .inl hnew.symm
    · exact ⟨key, (currentKey_commit_of_ne hdid).trans hkey, .inl rfl⟩

theorem setStatus_keysAdvance {switch : KeySwitch} {h : List (World × World)}
    (he : (KeyCall.setStatus switch).Effect env did h s t) : KeysAdvance env s t := by
  rcases he with rfl | ⟨e, he, read, hread, rfl⟩
  · exact .of_eq rfl
  · intro did' key hkey
    refine ⟨key, ?_, .inl rfl⟩
    rcases currentKey_commit (.setStatus switch) read s did' with hsame | ⟨-, ⟨note, hcall⟩, -⟩
    · exact hsame.trans hkey
    · cases hcall

theorem DidCall.Effect.keysAdvance {call : DidCall} {h : List (World × World)}
    (he : call.Effect env h s t) (hcurrent : call.Current env h s) : KeysAdvance env s t := by
  cases call with
  | create input =>
    rcases he with rfl | ⟨challenge, expiresAt, rfl, -⟩
    · exact .of_eq rfl
    · exact .of_eq rfl
  | verify input => rcases he with rfl | rfl <;> exact .of_eq rfl
  | rotate did note => exact rotate_keysAdvance he hcurrent
  | setStatus did switch => exact setStatus_keysAdvance he

theorem keyCall_namedKeys {call : KeyCall} {h : List (World × World)}
    (he : call.Effect env did h s t) (hs : NamedKeys env s) : NamedKeys env t := by
  rcases he with rfl | ⟨e, he, read, hread, rfl⟩
  · exact hs
  · intro did' key hkey
    rcases currentKey_commit call read s did' with hsame | ⟨-, -, hnew⟩
    · exact hs did' key (hsame ▸ hkey)
    · rw [hnew key hkey]
      exact keyIdentifierFor_ne_empty did _

theorem DidCall.Effect.namedKeys {call : DidCall} {h : List (World × World)}
    (he : call.Effect env h s t) (hs : NamedKeys env s) : NamedKeys env t := by
  cases call with
  | create input =>
    rcases he with rfl | ⟨challenge, expiresAt, rfl, -⟩
    · exact hs
    · exact hs
  | verify input => rcases he with rfl | rfl <;> exact hs
  | rotate did note => exact keyCall_namedKeys he hs
  | setStatus did switch => exact keyCall_namedKeys he hs

/-! ### What a verification establishes -/

/-- The call consumed a challenge for its own DID and purpose before it expired, signed by the DID's
wallet for this deployment, and found the DID usable afterwards while the key that the challenge
names was the current one. -/
def Authenticated (env : Environment) (c : DidConfig) (i : ℕ) (input : DidVerificationInput) :
    Prop :=
  ∃ s h row, c.history i = (s, consumeChallengeIn input s) :: h ∧ row ∈ s.didChallenges ∧
    row.nonce = input.nonce ∧ row.did = input.did ∧ row.purpose = input.purpose ∧
      row.consumedAt = none ∧ s.now < row.expiresAt ∧ row.audience = challengeAudience env ∧
        SignedByWallet env input row ∧
          ∃ e ∈ h, DidUsable input.did e.1 ∧
            ∃ keyId ∈ row.keyIdentifier, currentKey env input.did e.1 = some keyId

structure VerifiesSoundly (env : Environment) (c : DidConfig) : Prop where
  once : ∀ i i' input input' success success',
    c.Returned i (.verify input) (.verified (.ok success)) →
      c.Returned i' (.verify input') (.verified (.ok success')) → input.nonce = input'.nonce → i = i'
  sound : ∀ i input success, c.Returned i (.verify input) (.verified (.ok success)) →
    Authenticated env c i input

section

variable {w₀ : World} {c : DidConfig} {C : DidConfig → Move DidCall World → Prop}

theorem answerable_eq_true {input : DidVerificationInput} {now : Time} {row : DidChallengeRow} :
    answerable input now row = true ↔ row.nonce = input.nonce ∧ row.did = input.did ∧
      row.purpose = input.purpose ∧ row.consumedAt = none ∧ now < row.expiresAt := by
  simp only [answerable, Bool.and_eq_true, beq_iff_eq, Option.isNone_iff_eq_none, decide_eq_true_eq,
    and_assoc]

theorem namedKeys_of_reach (hw : NamedKeys env w₀) (hc : (didSystem env).Reach C w₀ c) :
    NamedKeys env c.shared :=
  hc.invariant (did_recalls env) hw (fun _ _ _ _ _ _ _ _ hs he => he.namedKeys hs)
    fun _ _ hs h => h.named hs

/-- What every advance of the keys keeps is kept along a run. -/
theorem persists_advance {G : World → Prop}
    (hG : ∀ s t, G s → KeysAdvance env s t → G t)
    (hc : (didSystem env).Reach (Admits (DidCall.Current env)) w₀ c) {i : ℕ} {e : World × World}
    (he : e ∈ c.history i) (h : G e.1) : G c.shared := by
  refine hc.persists (did_recalls env) ?_ (fun s t hs ht => hG s t hs ht.keysAdvance) (i, e)
    (Config.mem_history.mp he) (.inl h)
  intro c i call effect next _ hm hi hs heffect
  exact hG _ _ hs (heffect.keysAdvance (hm _ (Option.mem_toList.mpr hi)))

/-- Every challenge names a key that its DID has reached. -/
def ChallengesReached (env : Environment) (w : World) : Prop :=
  ∀ row ∈ w.didChallenges, ∃ keyId ∈ row.keyIdentifier, keyId ≠ "" ∧ ReachedKey env row.did keyId w

theorem ChallengesReached.advance (h : ChallengesReached env s) (hst : KeysAdvance env s t)
    (hrows : ∀ r' ∈ t.didChallenges, ∃ r ∈ s.didChallenges,
      r'.did = r.did ∧ r'.keyIdentifier = r.keyIdentifier) : ChallengesReached env t := by
  intro r' hr'
  obtain ⟨r, hr, hdid, hkey⟩ := hrows r' hr'
  obtain ⟨keyId, hid, hne, hreached⟩ := h r hr
  rw [hdid, hkey]
  exact ⟨keyId, hid, hne, hreached.advance hst⟩

theorem challengesReached (hw : NamedKeys env w₀) (h₀ : w₀.didChallenges = [])
    (hc : (didSystem env).Reach (Admits (DidCall.Current env)) w₀ c) :
    ChallengesReached env c.shared := by
  have hinit : ChallengesReached env w₀ := by simp [ChallengesReached, h₀]
  refine hc.invariant (did_recalls env) hinit ?_ fun s t hs h =>
    hs.advance h.keysAdvance fun r hr => ⟨r, h.didChallenges ▸ hr, rfl, rfl⟩
  intro c i call effect next hc hm hi hs he
  have hadvance := he.keysAdvance (hm _ (Option.mem_toList.mpr hi))
  have hsame : (effect c.shared).didChallenges = c.shared.didChallenges →
      ChallengesReached env (effect c.shared) := fun h =>
    hs.advance hadvance fun r hr => ⟨r, h ▸ hr, rfl, rfl⟩
  cases call with
  | create input =>
    rcases he with hsame' | ⟨challenge, expiresAt, heq, -, hdid, e, hmem, hkey⟩
    · exact hsame (by rw [hsame'])
    · have hreached : ReachedKey env input.did challenge.keyIdentifier c.shared :=
        persists_advance (fun _ _ h => h.advance) hc hmem ⟨_, hkey, .inl rfl⟩
      have hnamed := (hc.log_invariant (fun c hc => namedKeys_of_reach hw hc) _
        (Config.mem_history.mp hmem)).1
      intro row hrow
      rw [heq] at hrow
      rcases List.mem_append.mp hrow with hrow | hrow
      · obtain ⟨keyId, hid, hne, hreached⟩ := hs row hrow
        exact ⟨keyId, hid, hne, hreached.advance hadvance⟩
      · rw [List.mem_singleton.mp hrow]
        refine ⟨_, rfl, hnamed _ _ hkey, ?_⟩
        rw [DidChallenge.row, hdid]
        exact hreached.advance hadvance
  | verify input =>
    rcases he with hsame' | hconsume
    · exact hsame (by rw [hsame'])
    · refine hs.advance hadvance fun r' hr' => ?_
      rw [hconsume] at hr'
      obtain ⟨r, hr, rfl⟩ := Table.mem_update.mp hr'
      exact ⟨r, hr, by split <;> rfl, by split <;> rfl⟩
  | rotate did note => exact hsame (KeyCall.Effect.didChallenges he)
  | setStatus did switch => exact hsame (KeyCall.Effect.didChallenges he)

def Consumed (nonce : String) (w : World) : Prop :=
  ∃ r ∈ w.didChallenges, r.nonce = nonce ∧ r.consumedAt.isSome

theorem consumed_consumeChallengeIn {input : DidVerificationInput} (hs : UniqueChallenges s)
    (hany : s.didChallenges.any (answerable input s.now) = true) :
    ¬ Consumed input.nonce s ∧ Consumed input.nonce (consumeChallengeIn input s) := by
  obtain ⟨row, hrow, hans⟩ := List.any_eq_true.mp hany
  obtain ⟨hnonce, -, -, hfree, -⟩ := answerable_eq_true.mp hans
  constructor
  · rintro ⟨r, hr, hn, hc⟩
    obtain rfl : r = row := Table.UniqueKey.eq hs hr hrow (hn.trans hnonce.symm)
    simp [hfree] at hc
  · exact ⟨_, Table.mem_update.mpr ⟨row, hrow, (if_pos hans).symm⟩, hnonce, rfl⟩

theorem uniqueChallenges_of_nil (h₀ : w₀.didChallenges = []) : UniqueChallenges w₀ := by
  simp [UniqueChallenges, Table.UniqueKey, h₀]

theorem verifies_of_returned (hc : (didSystem env).Reach C w₀ c) {i : ℕ}
    {input : DidVerificationInput} {success : DidVerificationSuccess}
    (h : c.Returned i (.verify input) (.verified (.ok success))) :
    Verifies env input (c.history i) :=
  hc.returned (did_yields env) h

theorem verified_once (h₀ : w₀.didChallenges = []) (hc : (didSystem env).Reach C w₀ c) {i i' : ℕ}
    {input input' : DidVerificationInput} {success success' : DidVerificationSuccess}
    (h : c.Returned i (.verify input) (.verified (.ok success)))
    (h' : c.Returned i' (.verify input') (.verified (.ok success')))
    (hnonce : input.nonce = input'.nonce) : i = i' := by
  have hinv := uniqueChallenges_of_nil h₀
  have honce := ((did_discipline env).once hinv hc (Consumed input.nonce)
    (fun s t => ¬ Consumed input.nonce s ∧ Consumed input.nonce t)
    (fun s t _ hst ⟨r, hr, hn, hcons⟩ => by
      obtain ⟨r', hr', hkept, hstays⟩ := hst.rows r hr
      exact ⟨r', hr', (congrArg DidChallengeRow.nonce hkept).trans hn, hstays hcons⟩)
    fun _ _ _ _ htake => htake).1
  have htakes : ∀ {i input success}, c.Returned i (.verify input) (.verified (.ok success)) →
      ∃ s, (i, s, consumeChallengeIn input s) ∈ c.log ∧ ¬ Consumed input.nonce s ∧
        Consumed input.nonce (consumeChallengeIn input s) := by
    intro i input success h
    obtain ⟨s, e₁, e₂, e₃, e₄, challenge, hh, hany, -⟩ := verifies_of_returned hc h
    have hmem : (i, s, consumeChallengeIn input s) ∈ c.log :=
      Config.mem_history.mp (by rw [hh]; exact List.mem_cons_self)
    exact ⟨s, hmem, consumed_consumeChallengeIn ((did_discipline env).log hinv hc _ hmem).1 hany⟩
  obtain ⟨s, hmem, htake⟩ := htakes h
  obtain ⟨s', hmem', htake'⟩ := htakes h'
  rw [← hnonce] at htake'
  exact congrArg Prod.fst (honce.eq_of_mem hmem hmem' htake htake')

/-- The challenge that the call read back is the one that it consumed. -/
theorem row_of_verifies (h₀ : w₀.didChallenges = []) (hc : (didSystem env).Reach C w₀ c) {i : ℕ}
    {s : World} {e₁ e₂ e₃ e₄ : World × World} {input : DidVerificationInput}
    {challenge : DidChallengeRow}
    (hh : c.history i = [(s, consumeChallengeIn input s), e₁, e₂, e₃, e₄])
    (hany : s.didChallenges.any (answerable input s.now) = true)
    (hfind : e₂.1.didChallenges.find? (·.nonce == input.nonce) = some challenge) :
    ∃ row ∈ s.didChallenges, answerable input s.now row = true ∧ KeptChallenge row challenge := by
  have hinv := uniqueChallenges_of_nil h₀
  obtain ⟨row, hrow, hans⟩ := List.any_eq_true.mp hany
  have hpairs := hc.pairwise_history (i := i) (R := Relation.ReflTransGen ChallengesEvolve)
    fun c hc e he => ((did_discipline env).recalled hinv hc he).2
  rw [hh] at hpairs
  have hsteps := (List.pairwise_cons.mp hpairs).1 e₂ (by simp)
  obtain ⟨row', hrow', hkept⟩ := exists_kept hsteps hrow
  have hunique : UniqueChallenges e₂.1 :=
    ((did_discipline env).log hinv hc _ (Config.mem_history.mp (by rw [hh]; simp))).1
  have hnonce : row'.nonce = input.nonce :=
    (congrArg DidChallengeRow.nonce hkept.1).trans (answerable_eq_true.mp hans).1
  have hback := Table.UniqueKey.find?_eq hunique hrow'
  rw [hnonce, hfind, Option.some.injEq] at hback
  exact ⟨row, hrow, hans, hback ▸ hkept⟩

/-- A key that was reached, and is the current one later, has been the current one throughout. -/
theorem currentKey_between {w₁ w₂ : World} (hreached : ReachedKey env did keyId w₁)
    (hlater : PassedKey env did keyId w₁ → PassedKey env did keyId w₂)
    (hkey : currentKey env did w₂ = some keyId) : currentKey env did w₁ = some keyId := by
  obtain ⟨key, hkey₁, rfl | hlt⟩ := hreached
  · exact hkey₁
  · obtain ⟨key', hkey', hlt'⟩ := hlater ⟨key, hkey₁, hlt⟩
    rw [hkey, Option.mem_some] at hkey'
    rw [hkey'] at hlt'
    exact absurd hlt' (lt_irrefl _)

theorem verifiesSoundly (hw : NamedKeys env w₀) (h₀ : w₀.didChallenges = [])
    (hc : (didSystem env).Reach (Admits (DidCall.Current env)) w₀ c) : VerifiesSoundly env c := by
  refine ⟨fun _ _ _ _ _ _ => verified_once h₀ hc, fun i input success h => ?_⟩
  obtain ⟨s, e₁, e₂, e₃, e₄, challenge, hh, hany, hpasses⟩ := verifies_of_returned hc h
  obtain ⟨row, hrow, hans, hkept, -⟩ := row_of_verifies h₀ hc hh hany hpasses.row
  obtain ⟨hnonce, hdid, hpurpose, hfree, hnow⟩ := answerable_eq_true.mp hans
  have haudience : challenge.audience = row.audience := by rw [← hkept]
  have hmessage : challenge.message = row.message := by rw [← hkept]
  have hidentifier : challenge.keyIdentifier = row.keyIdentifier := by rw [← hkept]
  have hmem : ∀ e ∈ [(s, consumeChallengeIn input s), e₁, e₂, e₃, e₄], e ∈ c.history i :=
    fun e he => hh ▸ he
  -- the key that the challenge names, at the consume and at the two reads
  obtain ⟨keyId, hid, hne, hreached⟩ := (hc.log_invariant (fun c hc => challengesReached hw h₀ hc) _
    (Config.mem_history.mp (hmem _ List.mem_cons_self))).1 row hrow
  rw [hdid] at hreached
  have hpairs : ∀ G : World → Prop, (∀ s t, G s → KeysAdvance env s t → G t) →
      (c.history i).Pairwise fun e e' => G e.1 → G e'.1 := fun G hG =>
    hc.pairwise_history (R := fun s t => G s → G t) fun c hc e he h => persists_advance hG hc he h
  have hfirst := hpairs (ReachedKey env input.did keyId) fun _ _ h => h.advance
  have hsecond := hpairs (PassedKey env input.did keyId) fun _ _ h => h.advance
  rw [hh] at hfirst hsecond
  have hreached₁ := (List.pairwise_cons.mp hfirst).1 e₁ (by simp) hreached
  have hlater := (List.pairwise_cons.mp (List.pairwise_cons.mp hsecond).2).1 e₃ (by simp)
  obtain ⟨key, hkey, hcurrent⟩ := hpasses.key
  have hsame : key = keyId := by
    rw [superseded, hidentifier, Option.mem_def.mp hid, Option.any_some] at hcurrent
    by_contra hother
    simp [hne, Ne.symm hother] at hcurrent
  rw [hsame] at hkey
  refine ⟨s, [e₁, e₂, e₃, e₄], row, hh, hrow, hnonce, hdid, hpurpose, hfree, hnow,
    haudience ▸ hpasses.audience, ?_, e₁, by simp, hpasses.usable, keyId, hid,
      currentKey_between hreached₁ hlater hkey⟩
  rw [SignedByWallet, ← hmessage]
  exact hpasses.signed

end

/-! ### Sample runs -/

abbrev sampleDidSystem := didSystem sampleEnvironment

def sampleCreation : CreateDidChallengeInput where
  did := "did:sampraan:holder"
  id := "challenge"
  nonce := "nonce"

def sampleDidVerification : DidVerificationInput where
  did := "did:sampraan:holder"
  nonce := "nonce"
  signature := "signed by the holder"
  operatorKey := "0x01"

def verifiedDid (keyIdentifier : String) : DidVerificationSuccess where
  identityId := "holder"
  did := "did:sampraan:holder"
  keyIdentifier := keyIdentifier
  linkedUserId := some 1
  recoveredAddress := "0xA11CE"

theorem sample_namedKeys : NamedKeys sampleEnvironment sampleWorld := by
  intro did key hkey
  obtain ⟨record, hrecord, rfl⟩ := Option.map_eq_some_iff.mp hkey
  have hmem := List.mem_of_find?_eq_some hrecord
  simp only [sampleWorld, List.mem_singleton] at hmem
  subst hmem
  decide

/-- A rotation, a challenge for the new key, and its verification. -/
def challengedRun : Option DidConfig :=
  sampleDidSystem.exec (Admits (DidCall.Current sampleEnvironment)) (Config.initial sampleWorld)
    (System.sequence 0 [(.rotate "did:sampraan:holder" "routine", 2), (.create sampleCreation, 5),
      (.verify sampleDidVerification, 5)])

theorem verifiesSoundly_sample : ∃ c,
    c.Returned 2 (.verify sampleDidVerification) (.verified (.ok (verifiedDid "key-2-5ca1ab1e5ca1"))) ∧
      VerifiesSoundly sampleEnvironment c := by
  have hrun : challengedRun.isSome := by rfl
  have hc := System.exec_reach (fun m hm => System.harmless_of_mem_sequence hm)
    (Option.some_get hrun).symm
  exact ⟨challengedRun.get hrun, rfl, verifiesSoundly sample_namedKeys rfl hc⟩

def suspend (w : World) : World :=
  { w with identities := w.identities.map fun r => { r with status := .suspended } }

/-- A rotation reads the first key. The second key comes, a challenge for it is issued, and the third
comes. The verification finds the DID usable with the third key; then the identity is suspended and
the first rotation brings the second key back. -/
def revivedMoves : List (Move DidCall World) :=
  [.start 0 (.rotate "did:sampraan:holder" "stale"), .run 0,
    .start 1 (.rotate "did:sampraan:holder" "second"), .run 1, .run 1,
    .start 2 (.create sampleCreation), .run 2, .run 2, .run 2, .run 2, .run 2,
    .start 3 (.rotate "did:sampraan:holder" "third"), .run 3, .run 3,
    .start 4 (.verify sampleDidVerification), .run 4, .run 4] ++
  .interfere suspend :: [.run 0, .run 4, .run 4, .run 4]

def revivedRun : Option DidConfig :=
  sampleDidSystem.exec (fun _ _ => True) (Config.initial sampleWorld) revivedMoves

theorem suspend_statusChanges (s : World) : StatusChanges sampleEnvironment s (suspend s) :=
  ⟨rfl, fun _ _ hkey => hkey, id⟩

/-- A challenge for a key that had been rotated away is verified for a suspended identity. -/
theorem not_verifiesSoundly : NamedKeys sampleEnvironment sampleWorld ∧
    ∃ c, sampleDidSystem.Reachable sampleWorld c ∧
      c.Returned 4 (.verify sampleDidVerification)
        (.verified (.ok (verifiedDid "key-2-5ca1ab1e5ca1"))) ∧
      (∀ e ∈ c.history 4, DidUsable "did:sampraan:holder" e.1 →
        currentKey sampleEnvironment "did:sampraan:holder" e.1 = some "key-3-5ca1ab1e5ca1") ∧
      ¬ VerifiesSoundly sampleEnvironment c := by
  have hrun : revivedRun.isSome := by rfl
  have hthird : ∀ e ∈ (revivedRun.get hrun).history 4, DidUsable "did:sampraan:holder" e.1 →
      currentKey sampleEnvironment "did:sampraan:holder" e.1 = some "key-3-5ca1ab1e5ca1" := by
    decide +revert
  have hsecond : ∀ e ∈ (revivedRun.get hrun).history 4, ∀ row ∈ e.1.didChallenges,
      row.keyIdentifier = some "key-2-5ca1ab1e5ca1" := by
    clear hthird
    decide +revert
  refine ⟨sample_namedKeys, revivedRun.get hrun, ?_, rfl, hthird, fun hsound => ?_⟩
  · apply System.exec_reach _ (Option.some_get hrun).symm
    exact System.harmless_of_interfere suspend_statusChanges (by rfl) (by rfl)
  · obtain ⟨s, h, row, hh, hrow, -, -, -, -, -, -, -, e, he, husable, keyId, hid, hkey⟩ :=
      hsound.sound 4 sampleDidVerification _ rfl
    have hrowKey := hsecond (s, consumeChallengeIn sampleDidVerification s)
      (hh ▸ List.mem_cons_self) row hrow
    have hcurrent := hthird e (hh ▸ List.mem_cons_of_mem _ he) husable
    have hclash := hkey.symm.trans hcurrent
    rw [← Option.mem_def.mp hid, hrowKey] at hclash
    exact absurd hclash (by decide)

end Sampraan.Did
