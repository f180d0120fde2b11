import Sampraan.CryptoAssurance.PqcKeys
import Sampraan.CryptoAssurance.Verification

/-!
The registrations and revocations of one DID's post-quantum keys, one after the
other: which key is active, and which keys the history keeps.
-/

namespace Sampraan.CryptoAssurance

open Backend Library

variable {env : Environment} {did : String} {user : Option ℕ} {w : World} {identity : IdentityRow}

/-! ### The calls run alone -/

/-- The identity that `requireActor` resolves for the session. -/
def linkedIdentity (env : Environment) (user : Option ℕ) (w : World) : Option IdentityRow :=
  if env.databaseConfigured then
    user.bind fun id => w.identities.find? (·.linkedUserId == some id)
  else none

def rolesOf (env : Environment) (identity : IdentityRow) (w : World) : List String :=
  if env.databaseConfigured then
    (w.identityRoles.filter (·.identityId == identity.id)).map IdentityRoleRow.roleName
  else []

theorem requireActor_run (hlinked : linkedIdentity env user w = some identity) :
    (requireActor env user).run w =
      (.ok { identity := identity, roles := rolesOf env identity w }, w) := by
  unfold linkedIdentity at hlinked
  split at hlinked
  · rename_i hconf
    cases user with
    | none => cases hlinked
    | some id =>
      have hfind : w.identities.find? (·.linkedUserId == some id) = some identity := hlinked
      simp [requireActor, getIdentityByLinkedUserId, getIdentityRoles, rolesOf, hconf, hfind]
  · cases hlinked

theorem requireActor_run_none (hlinked : linkedIdentity env user w = none) :
    ∃ e, (requireActor env user).run w = (.error e, w) := by
  unfold linkedIdentity at hlinked
  cases user with
  | none => exact ⟨_, rfl⟩
  | some id =>
    split at hlinked
    · rename_i hconf
      have hfind : w.identities.find? (·.linkedUserId == some id) = none := hlinked
      exact ⟨_, by simp [requireActor, getIdentityByLinkedUserId, hconf, hfind]; rfl⟩
    · rename_i hconf
      exact ⟨_, by simp [requireActor, getIdentityByLinkedUserId, hconf]; rfl⟩

theorem getActivePqcKeyRecord_run (hconf : env.databaseConfigured = true) :
    (getActivePqcKeyRecord env did).run w = (.ok (activePqcKeyRecord did w), w) := by
  simp [getActivePqcKeyRecord, hconf, activePqcKeyRecord]

theorem auditKey_run (hconf : env.databaseConfigured = true) {actor : Actor}
    {action resourceType resourceId : String} {decision : AuditDecision} {reason : String} :
    (auditKey env actor action resourceType resourceId decision reason).run w =
      (.ok (),
        { w with
          auditEvents := w.auditEvents ++
            [{ actorIdentityId := some actor.identity.id
               action := action
               resourceType := resourceType
               resourceId := resourceId
               decision := decision
               reason := reason }] }) := by
  rw [auditKey, createAuditEvent, if_pos hconf]
  rfl

/-- The registration is let through for the identity. -/
structure Accepted (env : Environment) (user : Option ℕ) (input : RegisterKeyInput) (w : World)
    (identity : IdentityRow) (fingerprint : String) : Prop where
  linked : linkedIdentity env user w = some identity
  active : identity.status = .active
  verified : identity.lifecycleState = .verified
  parsed : ∃ bytes, parsePublicKey env input.publicKey = some (bytes, fingerprint) ∧
    isDegeneratePublicKey bytes = false
  possessed : possessed env identity.did fingerprint
    (nextPqcGeneration (activePqcKeyRecord identity.did w)) input = true

def writeKeyIn (existing : Option PqcKeyRecordRow) (key : PqcKeyInput) (now : Time)
    (rows : List PqcKeyRecordRow) : List PqcKeyRecordRow :=
  match existing with
  | some existing => rotatePqcKeyIn key existing.keyIdentifier now rows
  | none => registerPqcKeyIn key now rows

theorem writeKey_run (hconf : env.databaseConfigured = true) (existing : Option PqcKeyRecordRow)
    (key : PqcKeyInput) : ∃ record,
      (writeKey env existing key).run w =
        (.ok record, { w with pqcKeyRecords := writeKeyIn existing key w.now w.pqcKeyRecords }) ∧
      (existing.isSome → record = activePqcKeyRecord key.did
        { w with pqcKeyRecords := writeKeyIn existing key w.now w.pqcKeyRecords }) := by
  cases existing with
  | some existing =>
    simp [writeKey, rotatePqcKeyRecord, hconf, writeKeyIn, getActivePqcKeyRecord_run hconf]
  | none => simp [writeKey, registerPqcKeyRecord, hconf, writeKeyIn]

theorem linkedIdentity_configured (hlinked : linkedIdentity env user w = some identity) :
    env.databaseConfigured = true := by
  by_contra hconf
  simp [linkedIdentity, hconf] at hlinked

section

variable {input : RegisterKeyInput} {fingerprint : String}

/-- The table after a registration that is let through. -/
def registeredRows (env : Environment) (did fingerprint : String) (input : RegisterKeyInput)
    (w : World) : List PqcKeyRecordRow :=
  let existing := activePqcKeyRecord did w
  writeKeyIn existing (registeredKey env did fingerprint (nextPqcGeneration existing) input) w.now
    w.pqcKeyRecords

theorem registerKey_accepted (h : Accepted env user input w identity fingerprint) :
    (∃ events, ((registerKey env user input).run w).2 =
      { w with
        pqcKeyRecords := registeredRows env identity.did fingerprint input w
        auditEvents := events }) ∧
    ((activePqcKeyRecord identity.did w).isSome →
      (activePqcKeyRecord identity.did
        { w with pqcKeyRecords := registeredRows env identity.did fingerprint input w }).isSome →
      ∃ result, ((registerKey env user input).run w).1 = .ok result) := by
  have hconf := linkedIdentity_configured h.linked
  obtain ⟨bytes, hparsed, hdegenerate⟩ := h.parsed
  have hactor : (registerKey env user input).run w =
      (registerParsedKey env ⟨identity, rolesOf env identity w⟩ input fingerprint).run w := by
    rw [registerKey, Async.run_bind_ok (requireActor_run h.linked)]
    simp [h.active, h.verified, hparsed, hdegenerate]
  have hpossessed := h.possessed
  obtain ⟨record, hwrite, hrecord⟩ := writeKey_run (w := w) hconf (activePqcKeyRecord identity.did w)
    (registeredKey env identity.did fingerprint
      (nextPqcGeneration (activePqcKeyRecord identity.did w)) input)
  rw [hactor, registerParsedKey, Async.run_bind_ok (getActivePqcKeyRecord_run hconf)]
  simp only [hpossessed, Bool.not_true, Bool.false_eq_true, if_false]
  rw [Async.run_bind_ok hwrite]
  cases record with
  | none =>
    refine ⟨⟨_, rfl⟩, fun hexisting hactive => ?_⟩
    exact absurd (hrecord hexisting).symm (Option.isSome_iff_ne_none.mp hactive)
  | some record =>
    dsimp only
    rw [Async.run_bind_ok (auditKey_run hconf)]
    exact ⟨⟨_, rfl⟩, fun _ _ => ⟨_, rfl⟩⟩

theorem registerKey_records (h : Accepted env user input w identity fingerprint) :
    ((registerKey env user input).run w).2.pqcKeyRecords =
      registeredRows env identity.did fingerprint input w := by
  obtain ⟨events, hafter⟩ := (registerKey_accepted h).1
  rw [hafter]

theorem registerKey_refused (h : ∀ identity fingerprint, ¬ Accepted env user input w identity fingerprint) :
    ∃ e t, (registerKey env user input).run w = (.error e, t) ∧ t.pqcKeyRecords = w.pqcKeyRecords := by
  cases hlinked : linkedIdentity env user w with
  | none =>
    obtain ⟨e, hrun⟩ := requireActor_run_none hlinked
    exact ⟨e, w, Async.run_bind_error hrun, rfl⟩
  | some identity =>
    have hconf := linkedIdentity_configured hlinked
    rw [registerKey, Async.run_bind_ok (requireActor_run hlinked)]
    by_cases hstatus : identity.status ≠ .active ∨ identity.lifecycleState ≠ .verified
    · rw [if_pos hstatus]
      exact ⟨_, w, rfl, rfl⟩
    rw [if_neg hstatus]
    obtain ⟨hactive, hverified⟩ : identity.status = .active ∧ identity.lifecycleState = .verified := by
      simpa using hstatus
    cases hparsed : parsePublicKey env input.publicKey with
    | none => exact ⟨_, w, rfl, rfl⟩
    | some parsed =>
      obtain ⟨bytes, fingerprint⟩ := parsed
      by_cases hdegenerate : isDegeneratePublicKey bytes = true
      · simp only [hdegenerate, if_true]
        exact ⟨_, w, rfl, rfl⟩
      simp only [hdegenerate, Bool.false_eq_true, if_false]
      have hpossessed : possessed env identity.did fingerprint
          (nextPqcGeneration (activePqcKeyRecord identity.did w)) input = false := by
        by_contra hpossessed
        exact h identity fingerprint ⟨hlinked, hactive, hverified, ⟨bytes, hparsed, by simpa using hdegenerate⟩,
          by simpa using hpossessed⟩
      rw [registerParsedKey, Async.run_bind_ok (getActivePqcKeyRecord_run hconf)]
      simp only [hpossessed, Bool.not_false, if_true]
      rw [Async.run_bind_ok (auditKey_run hconf)]
      exact ⟨_, _, rfl, rfl⟩

end

def revokedRows (did : String) (rows : List PqcKeyRecordRow) : List PqcKeyRecordRow :=
  Table.update (·.did == did) (fun row => { row with status := .revoked }) rows

theorem revokeKey_records (env : Environment) (user : Option ℕ) (input : RevokeKeyInput) (w : World) :
    ((revokeKey env user input).run w).2.pqcKeyRecords = w.pqcKeyRecords ∨
      ∃ targetDid, ((revokeKey env user input).run w).2.pqcKeyRecords =
        revokedRows targetDid w.pqcKeyRecords := by
  cases hlinked : linkedIdentity env user w with
  | none =>
    obtain ⟨e, hrun⟩ := requireActor_run_none hlinked
    rw [revokeKey, Async.run_bind_error hrun]
    exact .inl rfl
  | some identity =>
    have hconf := linkedIdentity_configured hlinked
    rw [revokeKey, Async.run_bind_ok (requireActor_run hlinked)]
    cases revokedDid ⟨identity, rolesOf env identity w⟩ input with
    | error e => exact .inl rfl
    | ok targetDid =>
      simp only
      rw [Async.run_bind_ok (getActivePqcKeyRecord_run hconf)]
      cases activePqcKeyRecord targetDid w with
      | none => exact .inl rfl
      | some active =>
        simp only [setPqcKeyStatus, hconf, Bool.not_true, Bool.false_eq_true, if_false]
        by_cases hlong : 0 < Table.affectedRows (·.did == targetDid) w.pqcKeyRecords ∧
            200 < input.reason.length
        · simp [hlong]
        · refine .inr ⟨targetDid, ?_⟩
          simp [hlong, auditKey_run hconf, Async.run_bind, revokedRows]

/-! ### Sequences of calls -/

inductive KeyCall where
  | register (user : Option ℕ) (input : RegisterKeyInput)
  | revoke (user : Option ℕ) (input : RevokeKeyInput)
  deriving DecidableEq

def KeyCall.after (env : Environment) (w : World) : KeyCall → World
  | .register user input => ((registerKey env user input).run w).2
  | .revoke user input => ((revokeKey env user input).run w).2

def pqcKeys (did : String) (w : World) : List PqcKeyRecordRow :=
  w.pqcKeyRecords.filter (·.did == did)

/-- Calls one after the other, each with the state it was made in. Between two calls the rest of the
application does anything but write the keys of the DID. -/
inductive Sequence (env : Environment) (did : String) (w₀ : World) :
    List (KeyCall × World) → World → Prop
  | start : Sequence env did w₀ [] w₀
  | rest {log w t} (hs : Sequence env did w₀ log w) (ht : pqcKeys did t = pqcKeys did w) :
    Sequence env did w₀ log t
  | call {log w} (call : KeyCall) (hs : Sequence env did w₀ log w) :
    Sequence env did w₀ (log ++ [(call, w)]) (call.after env w)

/-! ### What a call does to the keys of the DID -/

section

variable {existing : Option PqcKeyRecordRow} {key : PqcKeyInput} {now : Time}
  {rows : List PqcKeyRecordRow}

/-- The filter of `pqcKeys`. -/
abbrev ofDid (did : String) (row : PqcKeyRecordRow) : Bool := row.did == did

theorem filter_writeKeyIn (hdid : key.did = did) :
    (writeKeyIn existing key now rows).filter (·.did == did) =
      writeKeyIn existing key now (rows.filter (·.did == did)) := by
  have hkey : ∀ r, isPqcKey key.did key.keyIdentifier r = true → (r.did == did) = true := by
    intro r hr
    simp only [isPqcKey, Bool.and_eq_true, beq_iff_eq] at hr
    simpa using hr.1.trans hdid
  have hrow : ((key.row now).did == did) = true := by simpa [PqcKeyInput.row] using hdid
  cases existing with
  | some existing =>
    refine (Table.filter_upsert (q := ofDid did) hrow (by simp) hkey).trans ?_
    exact congrArg _ (Table.filter_update (by simp))
  | none => exact Table.filter_upsert (q := ofDid did) hrow (by simp) hkey

theorem filter_writeKeyIn_of_ne (hdid : key.did ≠ did) :
    (writeKeyIn existing key now rows).filter (·.did == did) = rows.filter (·.did == did) := by
  have hkey : ∀ keyIdentifier r, isPqcKey key.did keyIdentifier r = true → (r.did == did) = false := by
    intro keyIdentifier r hr
    simp only [isPqcKey, Bool.and_eq_true, beq_iff_eq] at hr
    simpa [hr.1] using hdid
  have hrow : ((key.row now).did == did) = false := by simpa [PqcKeyInput.row] using hdid
  cases existing with
  | some existing =>
    refine (Table.filter_upsert_of_false (q := ofDid did) hrow (by simp) (hkey _)).trans ?_
    refine (Table.filter_update (by simp)).trans (Table.update_eq_self fun r hr => ?_)
    by_contra hr'
    simp [hkey _ r (by simpa using hr')] at hr
  | none => exact Table.filter_upsert_of_false (q := ofDid did) hrow (by simp) (hkey _)

end

/-! ### The rows after a registration -/

/-- No two rows for one key, and no two active ones. -/
structure KeysOrdered (rows : List PqcKeyRecordRow) : Prop where
  unique : Table.UniqueKey PqcKeyRecordRow.keyIdentifier rows
  atMostOne : ∀ row ∈ rows, ∀ row' ∈ rows, row.status = .active → row'.status = .active → row = row'

theorem pqcKeys_did {row : PqcKeyRecordRow} (h : row ∈ pqcKeys did w) : row.did = did := by
  simpa using (List.mem_filter.mp h).2

theorem activePqcKeyRecord_some {row : PqcKeyRecordRow} (h : activePqcKeyRecord did w = some row) :
    row ∈ pqcKeys did w ∧ row.status = .active := by
  obtain ⟨hmem, hrow⟩ := Table.newest_eq_some h
  simp only [Bool.and_eq_true, beq_iff_eq] at hrow
  exact ⟨List.mem_filter.mpr ⟨hmem, by simpa using hrow.1⟩, hrow.2⟩

theorem activePqcKeyRecord_none (h : activePqcKeyRecord did w = none) :
    ∀ row ∈ pqcKeys did w, row.status ≠ .active := by
  intro row hrow hactive
  have hnot := Table.newest_eq_none.mp h row (List.mem_filter.mp hrow).1
  simp [pqcKeys_did hrow, hactive] at hnot

theorem activePqcKeyRecord_isSome {row : PqcKeyRecordRow} (hrow : row ∈ pqcKeys did w)
    (hactive : row.status = .active) : (activePqcKeyRecord did w).isSome := by
  by_contra hnone
  exact activePqcKeyRecord_none (by simpa using hnone) row hrow hactive

section

variable {key : PqcKeyInput} {now : Time} {row : PqcKeyRecordRow}
  {f : PqcKeyRecordRow → PqcKeyRecordRow} {rows : List PqcKeyRecordRow}

theorem isPqcKey_iff (hdid : row.did = did) {keyIdentifier : String} :
    isPqcKey did keyIdentifier row = true ↔ row.keyIdentifier = keyIdentifier := by
  simp [isPqcKey, hdid]

variable {existing : PqcKeyRecordRow} (hdid : ∀ row ∈ rows, row.did = key.did)

include hdid

theorem mem_registerPqcKeyIn (h : row ∈ registerPqcKeyIn key now rows) :
    row ∈ rows ∧ row.keyIdentifier ≠ key.keyIdentifier ∨
      row.keyIdentifier = key.keyIdentifier ∧ row.status = .active ∧ row.publicKey = key.publicKey := by
  rcases Table.mem_upsert h with ⟨hmem, hnot⟩ | ⟨r, hr, hkey, rfl⟩ | ⟨rfl, -⟩
  · refine .inl ⟨hmem, fun heq => ?_⟩
    rw [(isPqcKey_iff (hdid row hmem)).mpr heq] at hnot
    cases hnot
  · exact .inr ⟨(isPqcKey_iff (hdid r hr)).mp hkey, rfl, rfl⟩
  · exact .inr ⟨rfl, rfl, rfl⟩

theorem update_of_ne {id : String} (hne : row.keyIdentifier ≠ id) (hrow : row ∈ rows) :
    row ∈ Table.update (isPqcKey key.did id) f rows := by
  have hnot : ¬ isPqcKey key.did id row = true :=
    fun h => hne ((isPqcKey_iff (hdid row hrow)).mp h)
  exact Table.mem_update.mpr ⟨row, hrow, by rw [if_neg hnot]⟩

/-- The row with the new identifier is the one that was there, or else new. -/
theorem mem_rotatePqcKeyIn (hnew : key.keyIdentifier ≠ existing.keyIdentifier)
    (h : row ∈ rotatePqcKeyIn key existing.keyIdentifier now rows) :
    (∃ r ∈ rows, row.keyIdentifier = r.keyIdentifier ∧ row.publicKey = r.publicKey ∧
      (r.keyIdentifier = key.keyIdentifier ∧ row.status = .active ∨
        r.keyIdentifier = existing.keyIdentifier ∧ row.status = .rotated ∨
        r.keyIdentifier ≠ key.keyIdentifier ∧ r.keyIdentifier ≠ existing.keyIdentifier ∧ row = r)) ∨
    row = key.row now ∧ ∀ r ∈ rows, r.keyIdentifier ≠ key.keyIdentifier := by
  have hupdated : ∀ r' ∈ Table.update (isPqcKey key.did existing.keyIdentifier)
      (fun row => { row with status := .rotated }) rows, ∃ r ∈ rows,
        r'.keyIdentifier = r.keyIdentifier ∧ r'.publicKey = r.publicKey ∧ r'.did = key.did ∧
          (r.keyIdentifier = existing.keyIdentifier ∧ r'.status = .rotated ∨
            r.keyIdentifier ≠ existing.keyIdentifier ∧ r' = r) := by
    intro r' hr'
    obtain ⟨r, hr, rfl⟩ := Table.mem_update.mp hr'
    refine ⟨r, hr, ?_⟩
    by_cases hkey : r.keyIdentifier = existing.keyIdentifier
    · simp [(isPqcKey_iff (hdid r hr)).mpr hkey, hkey, hdid r hr]
    · have hnot : ¬ isPqcKey key.did existing.keyIdentifier r = true :=
        fun h => hkey ((isPqcKey_iff (hdid r hr)).mp h)
      simp [hnot, hkey, hdid r hr]
  rcases Table.mem_upsert h with ⟨hmem, hnot⟩ | ⟨r', hr', hkey, rfl⟩ | ⟨rfl, hnone⟩
  · obtain ⟨r, hr, hid, hpublic, hrdid, hcase⟩ := hupdated row hmem
    have hne : r.keyIdentifier ≠ key.keyIdentifier := by
      intro heq
      rw [(isPqcKey_iff hrdid).mpr (hid.trans heq)] at hnot
      cases hnot
    refine .inl ⟨r, hr, hid, hpublic, ?_⟩
    rcases hcase with hcase | ⟨hother, hsame⟩
    · exact .inr (.inl hcase)
    · exact .inr (.inr ⟨hne, hother, hsame⟩)
  · obtain ⟨r, hr, hid, hpublic, hrdid, -⟩ := hupdated r' hr'
    have hnewid := (isPqcKey_iff hrdid).mp hkey
    exact .inl ⟨r, hr, hid, hpublic, .inl ⟨hid.symm.trans hnewid, rfl⟩⟩
  · refine .inr ⟨rfl, fun r hr heq => ?_⟩
    have hnot := hnone r (update_of_ne hdid (heq.trans_ne hnew) hr)
    rw [(isPqcKey_iff (hdid r hr)).mpr heq] at hnot
    cases hnot

end

/-- The identifier under which the next registration is recorded. -/
def nextKeyIdentifier (env : Environment) (did : String) (w : World) : String :=
  pqcKeyIdentifierFor env did (nextPqcGeneration (activePqcKeyRecord did w))

theorem nextKeyIdentifier_ne {existing : PqcKeyRecordRow}
    (h : activePqcKeyRecord did w = some existing) :
    nextKeyIdentifier env did w ≠ existing.keyIdentifier := by
  intro heq
  have hgeneration := congrArg generationOf heq
  rw [nextKeyIdentifier, generationOf_pqcKeyIdentifierFor, h, nextPqcGeneration] at hgeneration
  omega

/-- The keys of the DID after a registration that is let through. -/
def enrolled (env : Environment) (did fingerprint : String) (input : RegisterKeyInput) (w : World) :
    List PqcKeyRecordRow :=
  writeKeyIn (activePqcKeyRecord did w)
    (registeredKey env did fingerprint (nextPqcGeneration (activePqcKeyRecord did w)) input)
    w.now (pqcKeys did w)

section

variable {fingerprint : String} {input : RegisterKeyInput} {row : PqcKeyRecordRow}

theorem mem_enrolled (hord : KeysOrdered (pqcKeys did w))
    (h : row ∈ enrolled env did fingerprint input w) :
    (row.status = .active ↔ row.keyIdentifier = nextKeyIdentifier env did w) ∧
      (row.publicKey = input.publicKey ∧ row.keyIdentifier = nextKeyIdentifier env did w ∨
        ∃ r ∈ pqcKeys did w, row.keyIdentifier = r.keyIdentifier ∧ row.publicKey = r.publicKey) := by
  have hdid : ∀ r ∈ pqcKeys did w, r.did = did := fun r hr => pqcKeys_did hr
  rw [enrolled] at h
  cases hexisting : activePqcKeyRecord did w with
  | none =>
    rw [hexisting] at h
    have hnone := activePqcKeyRecord_none hexisting
    rw [nextKeyIdentifier, hexisting]
    rcases mem_registerPqcKeyIn hdid h with ⟨hmem, hne⟩ | ⟨hid, hactive, hpublic⟩
    · exact ⟨iff_of_false (hnone row hmem) hne, .inr ⟨row, hmem, rfl, rfl⟩⟩
    · exact ⟨iff_of_true hactive hid, .inl ⟨hpublic, hid⟩⟩
  | some existing =>
    have hne : nextKeyIdentifier env did w ≠ existing.keyIdentifier := nextKeyIdentifier_ne hexisting
    obtain ⟨hmem, hactive⟩ := activePqcKeyRecord_some hexisting
    rw [nextKeyIdentifier] at hne ⊢
    rw [hexisting] at h hne ⊢
    rcases mem_rotatePqcKeyIn hdid hne h with ⟨r, hr, hid, hpublic, hcase⟩ | ⟨rfl, -⟩
    · refine ⟨?_, .inr ⟨r, hr, hid, hpublic⟩⟩
      rcases hcase with ⟨hnew, hstatus⟩ | ⟨hold, hstatus⟩ | ⟨hnew, hold, rfl⟩
      · exact iff_of_true hstatus (hid.trans hnew)
      · refine iff_of_false (by simp [hstatus]) ?_
        rw [hid, hold]
        exact hne.symm
      · refine iff_of_false (fun hrow => hold ?_) hnew
        rw [hord.atMostOne row hr existing hmem hrow hactive]
    · exact ⟨iff_of_true rfl rfl, .inl ⟨rfl, rfl⟩⟩

theorem enrolled_unique (hord : KeysOrdered (pqcKeys did w)) :
    Table.UniqueKey PqcKeyRecordRow.keyIdentifier (enrolled env did fingerprint input w) := by
  have hdid : ∀ r ∈ pqcKeys did w, r.did = did := fun r hr => pqcKeys_did hr
  rw [enrolled]
  cases activePqcKeyRecord did w with
  | none =>
    apply hord.unique.upsert
    · intro r
      rfl
    · intro r hr hkey
      exact (isPqcKey_iff (hdid r hr)).mpr hkey
  | some existing =>
    apply Table.UniqueKey.upsert
    · apply hord.unique.update
      intro r
      rfl
    · intro r
      rfl
    · intro r' hr' hkey
      obtain ⟨r, hr, rfl⟩ := Table.mem_update.mp hr'
      refine (isPqcKey_iff ?_).mpr hkey
      split
      · exact hdid r hr
      · exact hdid r hr

theorem enrolled_ordered (hord : KeysOrdered (pqcKeys did w)) :
    KeysOrdered (enrolled env did fingerprint input w) := by
  refine ⟨enrolled_unique hord, fun row hrow row' hrow' hactive hactive' => ?_⟩
  apply (enrolled_unique hord).eq hrow hrow'
  rw [(mem_enrolled hord hrow).1.mp hactive, (mem_enrolled hord hrow').1.mp hactive']

theorem exists_enrolled (env : Environment) (did fingerprint : String) (input : RegisterKeyInput)
    (w : World) : ∃ row ∈ enrolled env did fingerprint input w, row.status = .active := by
  rw [enrolled]
  cases activePqcKeyRecord did w with
  | none =>
    obtain ⟨row, hrow, rfl | ⟨r, -, -, rfl⟩⟩ := Table.exists_mem_upsert _ _ _ _
    · exact ⟨_, hrow, rfl⟩
    · exact ⟨_, hrow, rfl⟩
  | some existing =>
    obtain ⟨row, hrow, rfl | ⟨r, -, -, rfl⟩⟩ := Table.exists_mem_upsert _ _ _ _
    · exact ⟨_, hrow, rfl⟩
    · exact ⟨_, hrow, rfl⟩

/-- A rotation onto a row that is there leaves the row's public key. -/
theorem enrolled_onto {r : PqcKeyRecordRow} (hord : KeysOrdered (pqcKeys did w))
    (hexisting : (activePqcKeyRecord did w).isSome) (hr : r ∈ pqcKeys did w)
    (hid : r.keyIdentifier = nextKeyIdentifier env did w)
    (hrow : row ∈ enrolled env did fingerprint input w)
    (hrowid : row.keyIdentifier = nextKeyIdentifier env did w) : row.publicKey = r.publicKey := by
  obtain ⟨existing, hexisting⟩ := Option.isSome_iff_exists.mp hexisting
  have hdid : ∀ r ∈ pqcKeys did w, r.did = did := fun r hr => pqcKeys_did hr
  have hne : nextKeyIdentifier env did w ≠ existing.keyIdentifier := nextKeyIdentifier_ne hexisting
  rw [nextKeyIdentifier] at hne hid hrowid
  rw [enrolled] at hrow
  rw [hexisting] at hrow hne hid hrowid
  rcases mem_rotatePqcKeyIn hdid hne hrow with ⟨r', hr', hrid, hpublic, -⟩ | ⟨-, hnone⟩
  · rw [hpublic, hord.unique.eq hr' hr (hrid.symm.trans (hrowid.trans hid.symm))]
  · exact absurd hid (hnone r hr)

/-- A first registration takes over the row that is there. -/
theorem enrolled_over (hexisting : activePqcKeyRecord did w = none)
    (hrow : row ∈ enrolled env did fingerprint input w)
    (hrowid : row.keyIdentifier = nextKeyIdentifier env did w) :
    row.publicKey = input.publicKey := by
  have hdid : ∀ r ∈ pqcKeys did w, r.did = did := fun r hr => pqcKeys_did hr
  rw [enrolled, hexisting] at hrow
  rw [nextKeyIdentifier, hexisting] at hrowid
  rcases mem_registerPqcKeyIn hdid hrow with ⟨-, hne⟩ | ⟨-, -, hpublic⟩
  · exact absurd hrowid hne
  · exact hpublic

/-- The row that would be met by the next registration, if there, is one of the same key. -/
def NoConflict (env : Environment) (did publicKey : String) (w : World) : Prop :=
  ∀ row ∈ pqcKeys did w, row.keyIdentifier = nextKeyIdentifier env did w → row.publicKey = publicKey

theorem enrolled_kept (hfits : NoConflict env did input.publicKey w) (hrow : row ∈ pqcKeys did w) :
    ∃ row' ∈ enrolled env did fingerprint input w,
      row'.keyIdentifier = row.keyIdentifier ∧ row'.publicKey = row.publicKey := by
  rw [enrolled]
  cases hexisting : activePqcKeyRecord did w with
  | none =>
    refine ⟨_, Table.mem_upsert_of_mem hrow, ?_⟩
    split
    · rename_i hkey
      have hid := (isPqcKey_iff (pqcKeys_did hrow)).mp hkey
      refine ⟨rfl, (hfits row hrow ?_).symm⟩
      rw [nextKeyIdentifier, hexisting]
      exact hid
    · exact ⟨rfl, rfl⟩
  | some existing =>
    refine ⟨_, Table.mem_upsert_of_mem (Table.mem_update.mpr ⟨row, hrow, rfl⟩), ?_⟩
    split <;> split <;> exact ⟨rfl, rfl⟩

theorem enrolled_publicKey (hord : KeysOrdered (pqcKeys did w))
    (hfits : NoConflict env did input.publicKey w)
    (hrow : row ∈ enrolled env did fingerprint input w) (hactive : row.status = .active) :
    row.publicKey = input.publicKey := by
  obtain ⟨hiff, hpublic | ⟨r, hr, hid, hpublic⟩⟩ := mem_enrolled hord hrow
  · exact hpublic.1
  · rw [hpublic]
    exact hfits r hr (hid.symm.trans (hiff.mp hactive))

end

/-! ### What a sequence keeps -/

theorem after_register {fingerprint : String} {input : RegisterKeyInput}
    (h : Accepted env user input w identity fingerprint) :
    pqcKeys identity.did ((KeyCall.register user input).after env w) =
      enrolled env identity.did fingerprint input w := by
  rw [pqcKeys, KeyCall.after, registerKey_records h]
  exact filter_writeKeyIn rfl

/-- A call leaves the keys of the DID alone, registers one, or revokes them. -/
theorem KeyCall.after_cases (env : Environment) (did : String) (call : KeyCall) (w : World) :
    pqcKeys did (call.after env w) = pqcKeys did w ∨
      (∃ user input identity fingerprint, call = .register user input ∧
        Accepted env user input w identity fingerprint ∧ identity.did = did ∧
          pqcKeys did (call.after env w) = enrolled env did fingerprint input w) ∨
      pqcKeys did (call.after env w) = revokedRows did (pqcKeys did w) := by
  cases call with
  | register user input =>
    by_cases haccepted : ∃ identity fingerprint, Accepted env user input w identity fingerprint
    · obtain ⟨identity, fingerprint, haccepted⟩ := haccepted
      by_cases hdid : identity.did = did
      · subst hdid
        exact .inr (.inl ⟨user, input, identity, fingerprint, rfl, haccepted, rfl,
          after_register haccepted⟩)
      · refine .inl ?_
        rw [pqcKeys, KeyCall.after, registerKey_records haccepted]
        exact filter_writeKeyIn_of_ne hdid
    · simp only [not_exists] at haccepted
      obtain ⟨e, t, hrun, ht⟩ := registerKey_refused haccepted
      refine .inl ?_
      rw [pqcKeys, KeyCall.after, hrun, ht, pqcKeys]
  | revoke user input =>
    rcases revokeKey_records env user input w with hsame | ⟨targetDid, hrevoked⟩
    · exact .inl (by rw [pqcKeys, KeyCall.after, hsame, pqcKeys])
    · by_cases hdid : targetDid = did
      · subst hdid
        refine .inr (.inr ?_)
        rw [pqcKeys, KeyCall.after, hrevoked]
        exact Table.filter_update fun _ => rfl
      · refine .inl ?_
        rw [pqcKeys, KeyCall.after, hrevoked]
        refine (Table.filter_update (by simp)).trans (Table.update_eq_self fun r hr => ?_)
        have hrdid : r.did = did := by simpa using (List.mem_filter.mp hr).2
        simpa [hrdid] using Ne.symm hdid

theorem mem_revokedRows {rows : List PqcKeyRecordRow} {row : PqcKeyRecordRow}
    (hdid : ∀ r ∈ rows, r.did = did) (h : row ∈ revokedRows did rows) : row.status = .revoked := by
  obtain ⟨r, hr, rfl⟩ := Table.mem_update.mp h
  simp [hdid r hr]

theorem KeyCall.after_ordered (env : Environment) {call : KeyCall}
    (hord : KeysOrdered (pqcKeys did w)) : KeysOrdered (pqcKeys did (call.after env w)) := by
  rcases call.after_cases env did w with hsame | ⟨user, input, identity, fingerprint, -, -, -, hrows⟩ |
    hrevoked
  · rwa [hsame]
  · rw [hrows]
    exact enrolled_ordered hord
  · rw [hrevoked]
    constructor
    · apply hord.unique.update
      intro r
      rfl
    · intro row hrow row' _ hactive
      rw [mem_revokedRows (fun r hr => pqcKeys_did hr) hrow] at hactive
      cases hactive

theorem Sequence.ordered {w₀ : World} {log : List (KeyCall × World)}
    (h₀ : KeysOrdered (pqcKeys did w₀)) (hs : Sequence env did w₀ log w) :
    KeysOrdered (pqcKeys did w) ∧ ∀ e ∈ log, KeysOrdered (pqcKeys did e.2) := by
  induction hs with
  | start => exact ⟨h₀, by simp⟩
  | rest _ ht ih => exact ⟨ht ▸ ih.1, ih.2⟩
  | @call log w call _ ih =>
    refine ⟨call.after_ordered env ih.1, fun e he => ?_⟩
    rcases List.mem_append.mp he with he | he
    · exact ih.2 e he
    · rw [List.mem_singleton.mp he]
      exact ih.1

def HoldsActive (did publicKey : String) (w : World) : Prop :=
  ∃ row ∈ pqcKeys did w, row.status = .active ∧ row.publicKey = publicKey

/-- The call, made in `w`, has registered a key for the DID. -/
def Registers (env : Environment) (did : String) (user : Option ℕ) (input : RegisterKeyInput)
    (w : World) : Prop :=
  (linkedIdentity env user w).map IdentityRow.did = some did ∧
    ∃ result, ((registerKey env user input).run w).1 = .ok result

/-- The registry after the calls of `log`, each with the state it was made in. -/
structure RegistryKept (env : Environment) (did : String) (log : List (KeyCall × World))
    (w : World) : Prop where
  registered : ∀ user input w', (.register user input, w') ∈ log → Registers env did user input w' →
    ∃ row ∈ pqcKeys did ((KeyCall.register user input).after env w'),
      row.status = .active ∧ row.publicKey = input.publicKey ∧
        ∀ row' ∈ pqcKeys did ((KeyCall.register user input).after env w'),
          row'.status = .active → row' = row
  activated : ∀ call w', (call, w') ∈ log → ∀ publicKey, ¬ HoldsActive did publicKey w' →
    HoldsActive did publicKey (call.after env w') → ∃ user input identity fingerprint,
      call = .register user input ∧ input.publicKey = publicKey ∧
        Accepted env user input w' identity fingerprint ∧ identity.did = did
  kept : ∀ call w', (call, w') ∈ log → ∀ row ∈ pqcKeys did w',
    ∃ row' ∈ pqcKeys did (call.after env w'),
      row'.keyIdentifier = row.keyIdentifier ∧ row'.publicKey = row.publicKey
  history : ∀ user input w', (.register user input, w') ∈ log → Registers env did user input w' →
    ∃ row ∈ pqcKeys did w, row.publicKey = input.publicKey

/-- Every registration for the DID that is let through meets no row of another key. -/
def NeverConflicts (env : Environment) (did : String) (log : List (KeyCall × World)) : Prop :=
  ∀ user input w', (.register user input, w') ∈ log → ∀ identity fingerprint,
    Accepted env user input w' identity fingerprint → identity.did = did →
      NoConflict env did input.publicKey w'

theorem Registers.accepted {input : RegisterKeyInput} (h : Registers env did user input w) :
    ∃ identity fingerprint, Accepted env user input w identity fingerprint ∧ identity.did = did := by
  obtain ⟨hdid, result, hok⟩ := h
  by_cases haccepted : ∃ identity fingerprint, Accepted env user input w identity fingerprint
  · obtain ⟨identity, fingerprint, haccepted⟩ := haccepted
    rw [haccepted.linked] at hdid
    exact ⟨identity, fingerprint, haccepted, Option.some_inj.mp hdid⟩
  · simp only [not_exists] at haccepted
    obtain ⟨e, t, hrun, -⟩ := registerKey_refused haccepted
    rw [hrun] at hok
    cases hok

theorem Accepted.registers {input : RegisterKeyInput} {fingerprint : String}
    (h : Accepted env user input w identity fingerprint)
    (hexisting : (activePqcKeyRecord identity.did w).isSome) :
    Registers env identity.did user input w := by
  refine ⟨by rw [h.linked]; rfl, (registerKey_accepted h).2 hexisting ?_⟩
  obtain ⟨row, hrow, hactive⟩ := exists_enrolled env identity.did fingerprint input w
  rw [← after_register h, pqcKeys, KeyCall.after, registerKey_records h] at hrow
  exact activePqcKeyRecord_isSome hrow hactive

section

variable {w₀ : World} {log : List (KeyCall × World)}

theorem KeyCall.after_kept {call : KeyCall}
    (hfits : ∀ user input identity fingerprint, call = .register user input →
      Accepted env user input w identity fingerprint → identity.did = did →
        NoConflict env did input.publicKey w)
    {row : PqcKeyRecordRow} (hrow : row ∈ pqcKeys did w) :
    ∃ row' ∈ pqcKeys did (call.after env w),
      row'.keyIdentifier = row.keyIdentifier ∧ row'.publicKey = row.publicKey := by
  rcases call.after_cases env did w with hsame | ⟨user, input, identity, fingerprint, hcall, hacc, hdid,
    hrows⟩ | hrevoked
  · exact ⟨row, hsame ▸ hrow, rfl, rfl⟩
  · rw [hrows]
    exact enrolled_kept (hfits user input identity fingerprint hcall hacc hdid) hrow
  · rw [hrevoked]
    refine ⟨_, Table.mem_update.mpr ⟨row, hrow, rfl⟩, ?_⟩
    split <;> exact ⟨rfl, rfl⟩

theorem Sequence.persists (hs : Sequence env did w₀ log w) (hfits : NeverConflicts env did log)
    {call : KeyCall} {w' : World} (he : (call, w') ∈ log) {row : PqcKeyRecordRow}
    (hrow : row ∈ pqcKeys did (call.after env w')) :
    ∃ row' ∈ pqcKeys did w, row'.publicKey = row.publicKey := by
  induction hs with
  | start => cases he
  | rest _ ht ih => exact ht ▸ ih hfits he
  | @call log w last _ ih =>
    rcases List.mem_append.mp he with he | he
    · have hold : NeverConflicts env did log := fun user input w' hmem =>
        hfits user input w' (List.mem_append_left _ hmem)
      obtain ⟨row₁, hrow₁, hpublic⟩ := ih hold he
      have hlast : ∀ user input identity fingerprint, last = .register user input →
          Accepted env user input w identity fingerprint → identity.did = did →
            NoConflict env did input.publicKey w := by
        intro user input identity fingerprint hcall hacc hdid
        exact hfits user input w (by simp [hcall]) identity fingerprint hacc hdid
      obtain ⟨row₂, hrow₂, -, hpublic₂⟩ := last.after_kept hlast hrow₁
      exact ⟨row₂, hrow₂, hpublic₂.trans hpublic⟩
    · obtain ⟨rfl, rfl⟩ := Prod.mk.inj (List.mem_singleton.mp he)
      exact ⟨row, hrow, rfl⟩

theorem Registers.exists_row {input : RegisterKeyInput} (hord : KeysOrdered (pqcKeys did w))
    (h : Registers env did user input w)
    (hfits : ∀ identity fingerprint, Accepted env user input w identity fingerprint →
      identity.did = did → NoConflict env did input.publicKey w) :
    ∃ row ∈ pqcKeys did ((KeyCall.register user input).after env w),
      row.status = .active ∧ row.publicKey = input.publicKey ∧
        ∀ row' ∈ pqcKeys did ((KeyCall.register user input).after env w),
          row'.status = .active → row' = row := by
  obtain ⟨identity, fingerprint, hacc, rfl⟩ := h.accepted
  rw [after_register hacc]
  obtain ⟨row, hrow, hactive⟩ := exists_enrolled env identity.did fingerprint input w
  refine ⟨row, hrow, hactive, enrolled_publicKey hord (hfits _ _ hacc rfl) hrow hactive, ?_⟩
  intro row' hrow' hactive'
  exact (enrolled_ordered hord).atMostOne row' hrow' row hrow hactive' hactive

theorem registryKept_of_neverConflicts (h₀ : KeysOrdered (pqcKeys did w₀))
    (hs : Sequence env did w₀ log w) (hfits : NeverConflicts env did log) :
    RegistryKept env did log w := by
  have hord := (hs.ordered h₀).2
  have hregistered : ∀ user input w', (.register user input, w') ∈ log →
      Registers env did user input w' → _ := fun user input w' he hr =>
    hr.exists_row (hord _ he) (hfits user input w' he)
  refine ⟨hregistered, ?_, ?_, ?_⟩
  · intro call w' he publicKey hnot hholds
    rcases call.after_cases env did w' with hsame | ⟨user, input, identity, fingerprint, hcall, hacc,
      hdid, hrows⟩ | hrevoked
    · rw [HoldsActive, hsame] at hholds
      exact absurd hholds hnot
    · refine ⟨user, input, identity, fingerprint, hcall, ?_, hacc, hdid⟩
      obtain ⟨row, hrow, hactive, hpublic⟩ := hholds
      rw [hrows] at hrow
      rw [← hpublic]
      subst hcall
      exact (enrolled_publicKey (hord _ he) (hfits user input w' he identity fingerprint hacc hdid)
        hrow hactive).symm
    · obtain ⟨row, hrow, hactive, -⟩ := hholds
      rw [hrevoked] at hrow
      rw [mem_revokedRows (fun r hr => pqcKeys_did hr) hrow] at hactive
      cases hactive
  · intro call w' he row hrow
    refine call.after_kept ?_ hrow
    intro user input identity fingerprint hcall hacc hdid
    exact hfits user input w' (hcall ▸ he) identity fingerprint hacc hdid
  · intro user input w' he hr
    obtain ⟨row, hrow, -, hpublic, -⟩ := hregistered user input w' he hr
    obtain ⟨row', hrow', hpublic'⟩ := hs.persists hfits he hrow
    exact ⟨row', hrow', hpublic'.trans hpublic⟩

theorem neverConflicts_of_registryKept (h₀ : KeysOrdered (pqcKeys did w₀))
    (hs : Sequence env did w₀ log w) (hkept : RegistryKept env did log w) :
    NeverConflicts env did log := by
  intro user input w' he identity fingerprint hacc hdid r hr hid
  subst hdid
  have hord := (hs.ordered h₀).2 _ he
  have hafter := after_register hacc
  cases hexisting : activePqcKeyRecord identity.did w' with
  | none =>
    obtain ⟨row, hrow, hrowid, hpublic⟩ := hkept.kept _ w' he r hr
    rw [hafter] at hrow
    rw [← hpublic, enrolled_over hexisting hrow (hrowid.trans hid)]
  | some existing =>
    have hsome : (activePqcKeyRecord identity.did w').isSome := by simp [hexisting]
    obtain ⟨row, hrow, hactive, hpublic, -⟩ :=
      hkept.registered user input w' he (hacc.registers hsome)
    rw [hafter] at hrow
    have hrowid := (mem_enrolled hord hrow).1.mp hactive
    rw [← hpublic, enrolled_onto hord hsome hr hid hrow hrowid]

/-- The registry is kept by just those sequences in which no registration meets a row of another
key. -/
theorem registryKept_iff (h₀ : KeysOrdered (pqcKeys did w₀)) (hs : Sequence env did w₀ log w) :
    RegistryKept env did log w ↔ NeverConflicts env did log :=
  ⟨neverConflicts_of_registryKept h₀ hs, registryKept_of_neverConflicts h₀ hs⟩

end

/-! ### A revoked key that becomes active again -/

def sampleDid : String := "did:sampraan:holder"

def sampleHolder : IdentityRow where
  id := "holder"
  linkedUserId := some 1
  displayName := "Holder"
  status := .active
  did := sampleDid
  lifecycleState := .verified

def samplePublicKey (n : UInt8) : String :=
  encodeBase64Url (List.replicate mlDsa65PublicKeySize n)

def sampleRegistration (n : UInt8) : RegisterKeyInput where
  publicKey := samplePublicKey n
  proofOfPossession := encodeBase64Url (List.replicate mlDsa65SignatureSize 1)

def sampleRevocation : RevokeKeyInput where
  did := none
  reason := "The device was lost"

def keyWorld (rows : List PqcKeyRecordRow) (events : List AuditEventRow) : World :=
  { sampleWorld with pqcKeyRecords := rows, auditEvents := events }

theorem decode_replicate {size : ℕ} (hsize : size ≠ 0) (n : UInt8) :
    decodeBase64Url (encodeBase64Url (List.replicate size n)) = some (List.replicate size n) :=
  decodeBase64Url_encodeBase64Url (by simpa using hsize)

theorem samplePublicKey_injective {n m : UInt8} (h : samplePublicKey n = samplePublicKey m) :
    n = m := by
  have hsize : mlDsa65PublicKeySize ≠ 0 := by decide
  have hdecode := congrArg decodeBase64Url h
  rw [samplePublicKey, samplePublicKey, decode_replicate hsize, decode_replicate hsize,
    Option.some_inj] at hdecode
  exact (List.replicate_inj.mp hdecode).2.resolve_left hsize

theorem sample_accepted {n : UInt8} (hn : n ≠ 0) (rows : List PqcKeyRecordRow)
    (events : List AuditEventRow) :
    Accepted sampleEnvironment (some 1) (sampleRegistration n) (keyWorld rows events) sampleHolder
      "5ca1ab1e5ca1ab1e" := by
  have hsize : mlDsa65PublicKeySize ≠ 0 := by decide
  have hkey := decode_replicate hsize n
  have hsignature := decode_replicate (show mlDsa65SignatureSize ≠ 0 by decide) 1
  have hones : (List.replicate mlDsa65SignatureSize (1 : UInt8)).all (· == 1) = true := by
    rw [List.all_eq_true]
    intro byte hbyte
    rw [(List.mem_replicate.mp hbyte).2]
    rfl
  refine ⟨rfl, rfl, rfl, ⟨List.replicate mlDsa65PublicKeySize n, ?_, ?_⟩, ?_⟩
  · simp only [sampleRegistration, samplePublicKey, parsePublicKey, hkey]
    simp [List.length_replicate]
    rfl
  · rw [isDegeneratePublicKey, List.all_eq_false]
    exact ⟨n, List.mem_replicate.mpr ⟨hsize, rfl⟩, by simpa using hn⟩
  · rw [possessed, verifyMessageSignature_iff]
    exact ⟨_, _, hkey, List.length_replicate, hsignature, List.length_replicate, congrArg some hones⟩

def keyRow (generation : ℕ) (publicKey : String) (status : KeyStatus) : PqcKeyRecordRow where
  did := sampleDid
  keyIdentifier := pqcKeyIdentifierFor sampleEnvironment sampleDid generation
  publicKey := publicKey
  publicKeyFingerprint := "5ca1ab1e5ca1ab1e"
  keySource := .registered
  status := status
  createdAt := 1700000000000

/-- One registration in the sample world, and the rows it leaves. -/
theorem sample_register {n : UInt8} (hn : n ≠ 0) {rows rows' : List PqcKeyRecordRow}
    (hrows : ∀ events, registeredRows sampleEnvironment sampleDid "5ca1ab1e5ca1ab1e"
      (sampleRegistration n) (keyWorld rows events) = rows') (events : List AuditEventRow) :
    ∃ events', (KeyCall.register (some 1) (sampleRegistration n)).after sampleEnvironment
      (keyWorld rows events) = keyWorld rows' events' := by
  obtain ⟨events', hafter⟩ := (registerKey_accepted (sample_accepted hn rows events)).1
  rw [show sampleHolder.did = sampleDid from rfl, hrows] at hafter
  exact ⟨events', hafter⟩

theorem sample_revoke (rows : List PqcKeyRecordRow) (events : List AuditEventRow)
    (hactive : (activePqcKeyRecord sampleDid (keyWorld rows events)).isSome) :
    ∃ events', (KeyCall.revoke (some 1) sampleRevocation).after sampleEnvironment
      (keyWorld rows events) = keyWorld (revokedRows sampleDid rows) events' := by
  obtain ⟨row, hrow⟩ := Option.isSome_iff_exists.mp hactive
  have hlinked : linkedIdentity sampleEnvironment (some 1) (keyWorld rows events) =
    some sampleHolder := rfl
  have hdid : revokedDid ⟨sampleHolder, rolesOf sampleEnvironment sampleHolder (keyWorld rows events)⟩
    sampleRevocation = .ok sampleDid := rfl
  have hconf : sampleEnvironment.databaseConfigured = true := rfl
  have hshort : ¬ 200 < sampleRevocation.reason.length := by decide
  rw [KeyCall.after, revokeKey, Async.run_bind_ok (requireActor_run hlinked), hdid]
  simp only
  rw [Async.run_bind_ok (getActivePqcKeyRecord_run hconf), hrow]
  simp only [setPqcKeyStatus, hconf, hshort, and_false, if_false, Bool.not_true, Bool.false_eq_true]
  exact ⟨_, rfl⟩

section

variable (n : UInt8) (events : List AuditEventRow) (p q : String)

theorem rows_registered :
    registeredRows sampleEnvironment sampleDid "5ca1ab1e5ca1ab1e" (sampleRegistration n)
      (keyWorld [] events) = [keyRow 1 (samplePublicKey n) .active] := rfl

theorem rows_rotated :
    registeredRows sampleEnvironment sampleDid "5ca1ab1e5ca1ab1e" (sampleRegistration n)
      (keyWorld [keyRow 1 p .active] events) =
        [keyRow 1 p .rotated, keyRow 2 (samplePublicKey n) .active] := by
  simp [registeredRows, writeKeyIn, rotatePqcKeyIn, Table.upsert, Table.update, activePqcKeyRecord,
    Table.newest, keyWorld, keyRow, isPqcKey, nextPqcGeneration, registeredKey, PqcKeyInput.row,
    sampleRegistration, sampleWorld]

theorem rows_revoked : revokedRows sampleDid [keyRow 1 p .rotated, keyRow 2 q .active] =
    [keyRow 1 p .revoked, keyRow 2 q .revoked] := rfl

/-- The next first key takes over the row of the old one. -/
theorem rows_overwritten :
    registeredRows sampleEnvironment sampleDid "5ca1ab1e5ca1ab1e" (sampleRegistration n)
      (keyWorld [keyRow 1 p .revoked, keyRow 2 q .revoked] events) =
        [keyRow 1 (samplePublicKey n) .active, keyRow 2 q .revoked] := by
  simp [registeredRows, writeKeyIn, registerPqcKeyIn, Table.upsert, Table.update, activePqcKeyRecord,
    Table.newest, keyWorld, keyRow, isPqcKey, nextPqcGeneration, registeredKey, sampleRegistration]

/-- The next second key is not recorded; the old one is active again. -/
theorem rows_revived :
    registeredRows sampleEnvironment sampleDid "5ca1ab1e5ca1ab1e" (sampleRegistration n)
      (keyWorld [keyRow 1 p .active, keyRow 2 q .revoked] events) =
        [keyRow 1 p .rotated, keyRow 2 q .active] := by
  simp [registeredRows, writeKeyIn, rotatePqcKeyIn, Table.upsert, Table.update, activePqcKeyRecord,
    Table.newest, keyWorld, keyRow, isPqcKey, nextPqcGeneration, registeredKey]

end

theorem sample_ordered (events : List AuditEventRow) :
    KeysOrdered (pqcKeys sampleDid (keyWorld [] events)) :=
  ⟨List.nodup_nil, by simp [pqcKeys, keyWorld]⟩

/-- Two keys are registered and revoked. -/
theorem sample_sequence : ∃ log events, Sequence sampleEnvironment sampleDid (keyWorld [] []) log
      (keyWorld [keyRow 1 (samplePublicKey 1) .revoked, keyRow 2 (samplePublicKey 2) .revoked] events) ∧
    log.map Prod.fst = [.register (some 1) (sampleRegistration 1),
      .register (some 1) (sampleRegistration 2), .revoke (some 1) sampleRevocation] := by
  obtain ⟨e₁, h₁⟩ := sample_register (by decide) (rows_registered 1) []
  obtain ⟨e₂, h₂⟩ := sample_register (by decide) (rows_rotated 2 · (samplePublicKey 1)) e₁
  obtain ⟨e₃, h₃⟩ := sample_revoke
    [keyRow 1 (samplePublicKey 1) .rotated, keyRow 2 (samplePublicKey 2) .active] e₂ (by rfl)
  have hs₀ : Sequence sampleEnvironment sampleDid (keyWorld [] []) [] (keyWorld [] []) := .start
  have hs₁ := hs₀.call (.register (some 1) (sampleRegistration 1))
  rw [h₁] at hs₁
  have hs₂ := hs₁.call (.register (some 1) (sampleRegistration 2))
  rw [h₂] at hs₂
  have hs₃ := hs₂.call (.revoke (some 1) sampleRevocation)
  rw [h₃, rows_revoked] at hs₃
  exact ⟨_, e₃, hs₃, rfl⟩

theorem registryKept_iff_sample : ∃ log w,
    log.map Prod.fst = [.register (some 1) (sampleRegistration 1),
      .register (some 1) (sampleRegistration 2), .revoke (some 1) sampleRevocation] ∧
    (RegistryKept sampleEnvironment sampleDid log w ↔
      NeverConflicts sampleEnvironment sampleDid log) := by
  obtain ⟨log, events, hs, hcalls⟩ := sample_sequence
  exact ⟨log, _, hcalls, registryKept_iff (sample_ordered []) hs⟩

/-- After two more registrations the first key is overwritten, the second one active again, and the
last one nowhere. -/
theorem not_registryKept : KeysOrdered (pqcKeys sampleDid (keyWorld [] [])) ∧ ∃ log w,
    Sequence sampleEnvironment sampleDid (keyWorld [] []) log w ∧
      log.map Prod.fst = [.register (some 1) (sampleRegistration 1),
        .register (some 1) (sampleRegistration 2), .revoke (some 1) sampleRevocation,
        .register (some 1) (sampleRegistration 3), .register (some 1) (sampleRegistration 4)] ∧
      pqcKeys sampleDid w =
        [keyRow 1 (samplePublicKey 3) .rotated, keyRow 2 (samplePublicKey 2) .active] ∧
      ¬ RegistryKept sampleEnvironment sampleDid log w := by
  obtain ⟨log, e₃, hs₃, hcalls⟩ := sample_sequence
  obtain ⟨e₄, h₄⟩ := sample_register (by decide)
    (rows_overwritten 3 · (samplePublicKey 1) (samplePublicKey 2)) e₃
  obtain ⟨e₅, h₅⟩ := sample_register (by decide)
    (rows_revived 4 · (samplePublicKey 3) (samplePublicKey 2)) e₄
  have hs₄ := hs₃.call (.register (some 1) (sampleRegistration 3))
  rw [h₄] at hs₄
  have hs₅ := hs₄.call (.register (some 1) (sampleRegistration 4))
  rw [h₅] at hs₅
  refine ⟨sample_ordered [], _, _, hs₅, by simp [hcalls], rfl, fun hkept => ?_⟩
  have hregisters : Registers sampleEnvironment sampleDid (some 1) (sampleRegistration 4)
      (keyWorld [keyRow 1 (samplePublicKey 3) .active, keyRow 2 (samplePublicKey 2) .revoked] e₄) :=
    (sample_accepted (by decide) _ _).registers rfl
  obtain ⟨row, hrow, hactive, hpublic, -⟩ := hkept.registered _ _ _ (by simp) hregisters
  rw [h₅] at hrow
  have hrows : row = keyRow 1 (samplePublicKey 3) .rotated ∨
      row = keyRow 2 (samplePublicKey 2) .active := by
    simpa [keyWorld] using (List.mem_filter.mp hrow).1
  rcases hrows with rfl | rfl
  · cases hactive
  · exact absurd (samplePublicKey_injective hpublic) (by decide)

end Sampraan.CryptoAssurance
