import Sampraan.Did.KeyRotation
import Sampraan.Library.Recall

/-!
The rotations and revocations of one DID's key as a system of overlapping calls:
which keys are active, and in which order the generations follow each other.
-/

namespace Sampraan.Did

open Backend Library
open Library.System (Reach Admits Ran)

variable (env : Environment) (did : String)

/-! ### The key of the DID -/

def didRecord (w : World) : Option DidRecordRow := w.didRecords.find? (·.did == did)

/-- The rows that `listDidKeyHistory` orders. -/
def keyHistory (w : World) : List DidKeyRecordRow := w.didKeyRecords.filter (·.did == did)

/-- The number in the key identifier of the DID's record, which counts as 1 where there is none. -/
def generation (w : World) : ℕ :=
  match didRecord did w with
  | some record => (keyGeneration (currentKeyIdentifier env record)).getD 1
  | none => 0

def KeyRevoked (w : World) : Prop := ∃ record ∈ didRecord did w, record.keyStatus = .revoked

instance : DecidablePred (KeyRevoked did) := fun w =>
  inferInstanceAs (Decidable (∃ record ∈ didRecord did w, record.keyStatus = .revoked))

/-- The table has no two rows for one key, and the active row is the current key's. -/
structure KeysInOrder (w : World) : Prop where
  unique : Table.UniqueKey DidKeyRecordRow.keyIdentifier (keyHistory did w)
  current : ∀ row ∈ keyHistory did w, row.status = .active →
    ∃ record ∈ didRecord did w, row.keyIdentifier = currentKeyIdentifier env record

variable {env did} {s t : World}

theorem didRecord_did {record : DidRecordRow} (h : didRecord did s = some record) :
    record.did = did := by
  simpa using List.find?_some h

/-! ### The transactions -/

section

variable {row row' : DidKeyRecordRow} {f : DidKeyRecordRow → DidKeyRecordRow}
  {rows : List DidKeyRecordRow}

/-- The update of an upsert gives the row it meets the status that the inserted row has. -/
structure Stamps (row : DidKeyRecordRow) (f : DidKeyRecordRow → DidKeyRecordRow) : Prop where
  did : ∀ r, (f r).did = r.did
  keyIdentifier : ∀ r, (f r).keyIdentifier = r.keyIdentifier
  status : ∀ r, (f r).status = row.status

theorem filter_upsert (hf : Stamps row f) (hrow : row.did = did) :
    (upsertDidKeyRecord row f rows).filter (·.did == did) =
      upsertDidKeyRecord row f (rows.filter (·.did == did)) := by
  apply Table.filter_upsert
  · simpa using hrow
  · intro r
    simp [hf.did]
  · intro r hr
    simp only [Bool.and_eq_true, beq_iff_eq] at hr
    simpa using hr.1.trans hrow

theorem mem_upsert (hf : Stamps row f) (h : row' ∈ upsertDidKeyRecord row f rows)
    (hdid : row'.did = row.did) :
    row' ∈ rows ∧ row'.keyIdentifier ≠ row.keyIdentifier ∨
      row'.keyIdentifier = row.keyIdentifier ∧ row'.status = row.status := by
  rcases Table.mem_upsert h with ⟨hmem, hnot⟩ | ⟨r, -, hr, rfl⟩ | ⟨rfl, -⟩
  · exact .inl ⟨hmem, by simpa [hdid] using hnot⟩
  · simp only [Bool.and_eq_true, beq_iff_eq] at hr
    exact .inr ⟨(hf.keyIdentifier r).trans hr.2, hf.status r⟩
  · exact .inr ⟨rfl, rfl⟩

theorem unique_upsert (hf : Stamps row f) (hrows : ∀ r ∈ rows, r.did = row.did)
    (h : Table.UniqueKey DidKeyRecordRow.keyIdentifier rows) :
    Table.UniqueKey DidKeyRecordRow.keyIdentifier (upsertDidKeyRecord row f rows) := by
  apply h.upsert hf.keyIdentifier
  intro r hr hkey
  simp [hrows r hr, hkey]

theorem keyHistory_did {row : DidKeyRecordRow} (h : row ∈ keyHistory did s) : row.did = did := by
  simpa using (List.mem_filter.mp h).2

end

section

variable {rotation : KeyRotation} {note : String}

def outgoingRow (rotation : KeyRotation) (note : String) : DidKeyRecordRow where
  did := rotation.did
  keyIdentifier := rotation.previousKeyIdentifier
  status := .rotated
  supersededByKeyIdentifier := some rotation.newKeyIdentifier
  note := some note

def incomingRow (rotation : KeyRotation) (note : String) : DidKeyRecordRow where
  did := rotation.did
  keyIdentifier := rotation.newKeyIdentifier
  status := .active
  supersededByKeyIdentifier := none
  note := some note

theorem stamps_outgoing : Stamps (outgoingRow rotation note) fun r =>
    { r with status := .rotated, supersededByKeyIdentifier := some rotation.newKeyIdentifier } :=
  ⟨fun _ => rfl, fun _ => rfl, fun _ => rfl⟩

theorem stamps_incoming : Stamps (incomingRow rotation note) fun r => { r with status := .active } :=
  ⟨fun _ => rfl, fun _ => rfl, fun _ => rfl⟩

theorem keyHistory_rotateIn (hdid : rotation.did = did) :
    keyHistory did (rotateIn rotation note s) =
      upsertDidKeyRecord (incomingRow rotation note) (fun r => { r with status := .active })
        (upsertDidKeyRecord (outgoingRow rotation note)
          (fun r =>
            { r with
              status := .rotated
              supersededByKeyIdentifier := some rotation.newKeyIdentifier })
          (keyHistory did s)) := by
  rw [keyHistory, keyHistory, ← filter_upsert stamps_outgoing hdid,
    ← filter_upsert stamps_incoming hdid]
  rfl

theorem didRecord_rotateIn (hdid : rotation.did = did) :
    didRecord did (rotateIn rotation note s) = (didRecord did s).map fun r =>
      { r with keyStatus := .active, keyIdentifier := some rotation.newKeyIdentifier } := by
  subst hdid
  exact Table.find?_update fun _ h => h

theorem active_rotateIn (hdid : rotation.did = did) {row : DidKeyRecordRow}
    (h : row ∈ keyHistory did (rotateIn rotation note s)) (hactive : row.status = .active) :
    row.keyIdentifier = rotation.newKeyIdentifier ∨
      row ∈ keyHistory did s ∧ row.keyIdentifier ≠ rotation.previousKeyIdentifier := by
  have hrow := (keyHistory_did h).trans hdid.symm
  rw [keyHistory_rotateIn hdid] at h
  rcases mem_upsert stamps_incoming h hrow with ⟨h, -⟩ | ⟨hnew, -⟩
  · rcases mem_upsert stamps_outgoing h hrow with h | ⟨-, hrotated⟩
    · exact .inr h
    · rw [hactive] at hrotated
      cases hrotated
  · exact .inl hnew

theorem unique_rotateIn (hdid : rotation.did = did)
    (h : Table.UniqueKey DidKeyRecordRow.keyIdentifier (keyHistory did s)) :
    Table.UniqueKey DidKeyRecordRow.keyIdentifier (keyHistory did (rotateIn rotation note s)) := by
  have hold : ∀ r ∈ keyHistory did s, r.did = rotation.did := fun r hr =>
    (keyHistory_did hr).trans hdid.symm
  rw [keyHistory_rotateIn hdid]
  apply unique_upsert stamps_incoming
  · intro r hr
    rcases Table.mem_upsert hr with ⟨hr, -⟩ | ⟨r₀, hr₀, -, rfl⟩ | ⟨rfl, -⟩
    · exact hold r hr
    · exact hold r₀ hr₀
    · rfl
  · exact unique_upsert stamps_outgoing hold h

end

section

variable {switch : KeySwitch} {keyIdentifier : String}

def switchedRow (did keyIdentifier : String) (switch : KeySwitch) : DidKeyRecordRow where
  did := did
  keyIdentifier := keyIdentifier
  status := switch.keyStatus
  supersededByKeyIdentifier := none
  note := some switch.note

theorem stamps_switched : Stamps (switchedRow did keyIdentifier switch) fun r =>
    { r with status := switch.keyStatus } :=
  ⟨fun _ => rfl, fun _ => rfl, fun _ => rfl⟩

theorem keyHistory_setKeyStatusIn :
    keyHistory did (setKeyStatusIn did keyIdentifier switch s) =
      upsertDidKeyRecord (switchedRow did keyIdentifier switch)
        (fun r => { r with status := switch.keyStatus }) (keyHistory did s) :=
  filter_upsert stamps_switched rfl

theorem didRecord_setKeyStatusIn :
    didRecord did (setKeyStatusIn did keyIdentifier switch s) =
      (didRecord did s).map fun r => { r with keyStatus := switch.keyStatus } :=
  Table.find?_update fun _ h => h

theorem active_setKeyStatusIn {row : DidKeyRecordRow}
    (h : row ∈ keyHistory did (setKeyStatusIn did keyIdentifier switch s))
    (hactive : row.status = .active) :
    row ∈ keyHistory did s ∨ row.keyIdentifier = keyIdentifier ∧ switch = .active := by
  have hrow := keyHistory_did h
  rw [keyHistory_setKeyStatusIn] at h
  rcases mem_upsert stamps_switched h hrow with ⟨h, -⟩ | ⟨hkey, hstatus⟩
  · exact .inl h
  · cases switch with
    | active => exact .inr ⟨hkey, rfl⟩
    | revoked =>
      rw [hactive] at hstatus
      cases hstatus

theorem unique_setKeyStatusIn
    (h : Table.UniqueKey DidKeyRecordRow.keyIdentifier (keyHistory did s)) :
    Table.UniqueKey DidKeyRecordRow.keyIdentifier
      (keyHistory did (setKeyStatusIn did keyIdentifier switch s)) := by
  rw [keyHistory_setKeyStatusIn]
  exact unique_upsert stamps_switched (fun r hr => keyHistory_did hr) h

end

/-! ### The system -/

inductive KeyCall where
  | rotate (note : String)
  | setStatus (switch : KeySwitch)
  deriving DecidableEq

inductive KeyReply where
  | rotated (answer : Except String KeyRotation)
  | statusSet (answer : Except String Unit)

def keyBody (env : Environment) (did : String) : KeyCall → Promise KeyReply
  | .rotate note => do return .rotated (← rotateDidKey env did note)
  | .setStatus switch => do return .statusSet (← setDidKeyStatus env did switch)

/-- The step leaves the keys of the DID alone, though it may register the DID. -/
structure KeepsKeys (did : String) (s t : World) : Prop where
  history : keyHistory did t = keyHistory did s
  record : ∀ record ∈ didRecord did s, ∃ record' ∈ didRecord did t,
    record'.keyStatus = record.keyStatus ∧ record'.keyIdentifier = record.keyIdentifier

def keySystem (env : Environment) (did : String) : System KeyCall World Error KeyReply where
  body := keyBody env did
  interfere := KeepsKeys did

abbrev KeyConfig := Config KeyCall World Error KeyReply

def rotationFrom (env : Environment) (did : String) (read : DidRecordRow) : KeyRotation where
  did := did
  previousKeyIdentifier := currentKeyIdentifier env read
  newKeyIdentifier := keyIdentifierFor env did (nextGeneration (currentKeyIdentifier env read))

/-- What the transaction of a call does, once the call has read the DID's record. -/
def KeyCall.commit (env : Environment) (did : String) (read : DidRecordRow) (w : World) :
    KeyCall → World
  | .rotate note => rotateIn (rotationFrom env did read) note w
  | .setStatus switch => setKeyStatusIn did (currentKeyIdentifier env read) switch w

/-- What the transaction makes of the DID's record. -/
def KeyCall.written (env : Environment) (did : String) (read record : DidRecordRow) :
    KeyCall → DidRecordRow
  | .rotate _ =>
    { record with
      keyStatus := .active
      keyIdentifier := some (rotationFrom env did read).newKeyIdentifier }
  | .setStatus switch => { record with keyStatus := switch.keyStatus }

theorem didRecord_commit {call : KeyCall} {read : DidRecordRow} :
    didRecord did (call.commit env did read s) =
      (didRecord did s).map fun record => call.written env did read record := by
  cases call with
  | rotate note => exact didRecord_rotateIn (s := s) rfl
  | setStatus switch => exact didRecord_setKeyStatusIn

def KeyCall.Effect (env : Environment) (did : String) (call : KeyCall) (h : List (World × World))
    (s t : World) : Prop :=
  t = s ∨ ∃ e ∈ h, ∃ record ∈ didRecord did e.1, t = call.commit env did record s

theorem rotateDidKey_recalls {note : String} :
    (rotateDidKey env did note).Recalls ((KeyCall.rotate note).Effect env did) [] := by
  refine .ite (fun _ => .fulfilled trivial) fun _ => ?_
  refine Async.yields_query_bind (fun _ => .inl rfl) fun s => ?_
  cases hf : s.didRecords.find? (·.did == did) with
  | none => exact .fulfilled trivial
  | some record =>
    refine .ite (fun _ => .fulfilled trivial) fun _ => .ite (fun _ => .fulfilled trivial) fun _ => ?_
    refine Async.yields_statement_bind (fun s' => ?_) fun _ => .fulfilled trivial
    exact .inr ⟨(s, s), by simp, record, hf, rfl⟩

theorem setDidKeyStatus_recalls {switch : KeySwitch} :
    (setDidKeyStatus env did switch).Recalls ((KeyCall.setStatus switch).Effect env did) [] := by
  refine .ite (fun _ => .fulfilled trivial) fun _ => ?_
  refine Async.yields_query_bind (fun _ => .inl rfl) fun s => ?_
  cases hf : s.didRecords.find? (·.did == did) with
  | none => exact .fulfilled trivial
  | some record =>
    refine Async.yields_statement_bind (fun s' => ?_) fun _ => .fulfilled trivial
    exact .inr ⟨(s, s), by simp, record, hf, rfl⟩

theorem key_recalls (env : Environment) (did : String) (call : KeyCall) :
    ((keySystem env did).body call).Recalls (call.Effect env did) [] := by
  cases call with
  | rotate note => exact rotateDidKey_recalls.bind fun _ _ _ => .fulfilled trivial
  | setStatus switch => exact setDidKeyStatus_recalls.bind fun _ _ _ => .fulfilled trivial

/-! ### Convergence -/

/-- The call, which has read `read`, commits on `record`: the key is still the current one. A
rotation may find its own successor in its place, but no revocation. -/
def KeyCall.Fits (env : Environment) (did : String) (read record : DidRecordRow) : KeyCall → Prop
  | .rotate _ =>
    record.keyStatus ≠ .revoked ∧
      (currentKeyIdentifier env record = currentKeyIdentifier env read ∨
        currentKeyIdentifier env record = (rotationFrom env did read).newKeyIdentifier)
  | .setStatus .active => currentKeyIdentifier env record = currentKeyIdentifier env read
  | .setStatus .revoked => True

instance KeyCall.Fits.decidable (env : Environment) (did : String) (read record : DidRecordRow) :
    (call : KeyCall) → Decidable (call.Fits env did read record)
  | .rotate _ => inferInstanceAs (Decidable (_ ∧ (_ ∨ _)))
  | .setStatus .active => inferInstanceAs (Decidable (_ = _))
  | .setStatus .revoked => .isTrue trivial

def KeyCall.Current (env : Environment) (did : String) (call : KeyCall) (h : List (World × World))
    (s : World) : Prop :=
  ∀ e ∈ h, ∀ read ∈ didRecord did e.1, ∀ record ∈ didRecord did s, call.Fits env did read record

instance KeyCall.Current.decidable (env : Environment) (did : String) (call : KeyCall)
    (h : List (World × World)) (s : World) : Decidable (call.Current env did h s) :=
  inferInstanceAs (Decidable (∀ e ∈ h, ∀ read ∈ didRecord did e.1, ∀ record ∈ didRecord did s,
    call.Fits env did read record))

structure Converges (env : Environment) (did : String) (c : KeyConfig) : Prop where
  forward : ∀ e ∈ c.log, generation env did e.2.1 ≤ generation env did e.2.2
  atMostOne : ∀ row ∈ keyHistory did c.shared, ∀ row' ∈ keyHistory did c.shared,
    row.status = .active → row'.status = .active → row = row'
  current : ∀ row ∈ keyHistory did c.shared, row.status = .active →
    ∃ record ∈ didRecord did c.shared, row.keyIdentifier = currentKeyIdentifier env record
  revoked : ∀ before e after, c.log = before ++ e :: after → KeyRevoked did e.2.2 →
    ¬ KeyRevoked did c.shared → ∃ e' ∈ after, ∃ promise,
      c.threads e'.1 = some ⟨.setStatus .active, promise⟩ ∧ KeyRevoked did e'.2.1 ∧
        ¬ KeyRevoked did e'.2.2

theorem KeysInOrder.keeps (h : KeysInOrder env did s) (hk : KeepsKeys did s t) :
    KeysInOrder env did t := by
  constructor
  · rw [hk.history]
    exact h.unique
  · intro row hrow hactive
    rw [hk.history] at hrow
    obtain ⟨record, hrecord, heq⟩ := h.current row hrow hactive
    obtain ⟨record', hrecord', -, hkey⟩ := hk.record record hrecord
    refine ⟨record', hrecord', ?_⟩
    rw [heq, currentKeyIdentifier, currentKeyIdentifier, hkey, didRecord_did hrecord,
      didRecord_did hrecord']

theorem KeysInOrder.commit {call : KeyCall} {h : List (World × World)} {e : World × World}
    {read record : DidRecordRow} (hs : KeysInOrder env did s) (hrecord : didRecord did s = some record)
    (hcurrent : call.Current env did h s) (he : e ∈ h) (hread : read ∈ didRecord did e.1) :
    KeysInOrder env did (call.commit env did read s) := by
  have hnow := hcurrent e he read hread record hrecord
  have hold : ∀ row ∈ keyHistory did s, row.status = .active →
      row.keyIdentifier = currentKeyIdentifier env record := by
    intro row hrow hactive
    obtain ⟨record', hrecord', heq⟩ := hs.current row hrow hactive
    rwa [Option.some_inj.mp (hrecord.symm.trans hrecord')]
  have hwritten : didRecord did (call.commit env did read s) =
      some (call.written env did read record) := by
    rw [didRecord_commit, hrecord]
    rfl
  have hdid : (rotationFrom env did read).did = did := rfl
  cases call with
  | rotate note =>
    refine ⟨unique_rotateIn hdid hs.unique, fun row hrow hactive => ⟨_, hwritten, ?_⟩⟩
    rcases active_rotateIn hdid hrow hactive with hnew | ⟨hrow, hprevious⟩
    · exact hnew
    · have hkey := hold row hrow hactive
      rcases hnow.2 with hsame | hnext
      · exact absurd (hkey.trans hsame) hprevious
      · exact hkey.trans hnext
  | setStatus switch =>
    refine ⟨unique_setKeyStatusIn hs.unique, fun row hrow hactive => ⟨_, hwritten, ?_⟩⟩
    rcases active_setKeyStatusIn hrow hactive with hrow | ⟨hkey, rfl⟩
    · exact hold row hrow hactive
    · exact hkey.trans hnow.symm

/-- The step keeps the DID registered. -/
def KeepsRecord (did : String) (s t : World) : Prop :=
  (didRecord did s).isSome → (didRecord did t).isSome

theorem KeepsKeys.keepsRecord (hk : KeepsKeys did s t) : KeepsRecord did s t := by
  intro h
  obtain ⟨record, hrecord⟩ := Option.isSome_iff_exists.mp h
  obtain ⟨record', hrecord', -⟩ := hk.record record hrecord
  exact Option.isSome_of_mem hrecord'

theorem KeyCall.Effect.keepsRecord {call : KeyCall} {h : List (World × World)}
    (he : call.Effect env did h s t) : KeepsRecord did s t := by
  rcases he with rfl | ⟨e, -, read, -, rfl⟩
  · exact id
  · intro h
    rwa [didRecord_commit, Option.isSome_map]

theorem key_discipline (env : Environment) (did : String) :
    (keySystem env did).Discipline (fun _ => True) (KeepsRecord did) where
  body call := (key_recalls env did call).obeys fun _ _ _ _ he => he.keepsRecord
  interfere _ _ _ hk := hk.keepsRecord
  keep _ _ _ _ := trivial

/-- A call has read a record only of a DID that is still registered. -/
theorem exists_record {C : KeyConfig → Move KeyCall World → Prop} {w₀ : World} {c : KeyConfig}
    (hc : (keySystem env did).Reach C w₀ c) {i : ℕ} {e : World × World} (he : e ∈ c.history i)
    {read : DidRecordRow} (hread : read ∈ didRecord did e.1) :
    ∃ record, didRecord did c.shared = some record := by
  have hlater := ((key_discipline env did).recalled trivial hc he).2
  have hkeeps : ∀ s t, Relation.ReflTransGen (KeepsRecord did) s t → KeepsRecord did s t := by
    intro s t h
    induction h with
    | refl => exact id
    | tail _ hstep ih => exact fun hs => hstep (ih hs)
  exact Option.isSome_iff_exists.mp (hkeeps _ _ hlater (Option.isSome_of_mem hread))

theorem keysInOrder {w₀ : World} {c : KeyConfig} (h₀ : KeysInOrder env did w₀)
    (hc : (keySystem env did).Reach (Admits (KeyCall.Current env did)) w₀ c) :
    KeysInOrder env did c.shared := by
  refine hc.invariant (key_recalls env did) h₀ ?_ fun s t hs hk => hs.keeps hk
  intro c i call effect next hc hm hi hs heffect
  rcases heffect with hsame | ⟨e, he, read, hread, hcommit⟩
  · rwa [hsame]
  · obtain ⟨record, hrecord⟩ := exists_record hc he hread
    rw [hcommit]
    exact hs.commit hrecord (hm _ (Option.mem_toList.mpr hi)) he hread

/-! ### Generations and revocations -/

theorem generation_new (env : Environment) (did : String) (read : DidRecordRow) :
    keyGeneration (rotationFrom env did read).newKeyIdentifier =
      some ((keyGeneration (currentKeyIdentifier env read)).getD 1 + 1) :=
  keyGeneration_keyIdentifierFor env did _

theorem generation_le_commit {call : KeyCall} {h : List (World × World)} {e : World × World}
    {read : DidRecordRow} (hcurrent : call.Current env did h s) (he : e ∈ h)
    (hread : read ∈ didRecord did e.1) :
    generation env did s ≤ generation env did (call.commit env did read s) := by
  rw [generation, generation, didRecord_commit]
  cases hrecord : didRecord did s with
  | none => exact Nat.zero_le _
  | some record =>
    have hnow := hcurrent e he read hread record hrecord
    cases call with
    | rotate note =>
      have hnew : currentKeyIdentifier env ((KeyCall.rotate note).written env did read record) =
          (rotationFrom env did read).newKeyIdentifier := rfl
      simp only [Option.map_some, hnew, generation_new, Option.getD_some]
      rcases hnow.2 with hsame | hnext
      · rw [hsame]
        omega
      · rw [hnext, generation_new, Option.getD_some]
    | setStatus switch => exact le_refl _

theorem KeepsKeys.keyRevoked (hk : KeepsKeys did s t) (h : KeyRevoked did s) : KeyRevoked did t := by
  obtain ⟨record, hrecord, hrevoked⟩ := h
  obtain ⟨record', hrecord', hstatus, -⟩ := hk.record record hrecord
  exact ⟨record', hrecord', hstatus.trans hrevoked⟩

/-- Of the statements that find the call's key current, only a reactivation lifts a revocation. -/
theorem KeyCall.Effect.lifts {call : KeyCall} {h : List (World × World)}
    (heffect : call.Effect env did h s t) (hcurrent : call.Current env did h s)
    (hs : KeyRevoked did s) (ht : ¬ KeyRevoked did t) : call = .setStatus .active := by
  rcases heffect with rfl | ⟨e, he, read, hread, rfl⟩
  · exact absurd hs ht
  · obtain ⟨record, hrecord, hrevoked⟩ := hs
    have hnow := hcurrent e he read hread record hrecord
    cases call with
    | rotate note => exact absurd hrevoked hnow.1
    | setStatus switch =>
      cases switch with
      | active => rfl
      | revoked =>
        refine absurd ⟨(KeyCall.setStatus .revoked).written env did read record, ?_, rfl⟩ ht
        exact didRecord_commit.trans (congrArg (Option.map _) hrecord)

theorem converges (env : Environment) (did : String) {w₀ : World} {c : KeyConfig}
    (h₀ : KeysInOrder env did w₀)
    (hc : (keySystem env did).Reach (Admits (KeyCall.Current env did)) w₀ c) :
    Converges env did c := by
  have hinv := keysInOrder h₀ hc
  constructor
  · intro e he
    obtain ⟨c₀, call, hran⟩ := hc.ran he
    rcases hran.recalls (key_recalls env did) with hsame | ⟨e', he', read, hread, hcommit⟩
    · rw [hsame]
    · rw [hcommit]
      exact generation_le_commit hran.admits he' hread
  · intro row hrow row' hrow' hactive hactive'
    obtain ⟨record, hrecord, hkey⟩ := hinv.current row hrow hactive
    obtain ⟨record', hrecord', hkey'⟩ := hinv.current row' hrow' hactive'
    apply hinv.unique.eq hrow hrow'
    rw [hkey, hkey', Option.some_inj.mp (hrecord.symm.trans hrecord')]
  · exact hinv.current
  · intro before e after hlog hrevoked hnow
    have hint : ∀ s t, KeepsKeys did s t → ¬ ¬ KeyRevoked did s → ¬ ¬ KeyRevoked did t :=
      fun s t hk h => not_not.mpr (hk.keyRevoked (not_not.mp h))
    obtain ⟨c₀, e', hmem, call, hran, hbefore, hafter⟩ :=
      hc.cause_since hint hlog (not_not.mpr hrevoked) hnow
    have hcall := (hran.recalls (key_recalls env did)).lifts hran.admits (not_not.mp hbefore) hafter
    obtain ⟨promise, hthread⟩ := hran.thread_eq
    exact ⟨e', hmem, promise, hcall ▸ hthread, not_not.mp hbefore, hafter⟩

/-! ### Sample runs -/

abbrev sampleKeySystem := keySystem sampleEnvironment "did:sampraan:holder"

theorem sample_keysInOrder : KeysInOrder sampleEnvironment "did:sampraan:holder" sampleWorld :=
  ⟨List.nodup_nil, by simp [keyHistory, sampleWorld]⟩

/-- A rotation, a revocation and a reactivation, one after the other. -/
def sequentialRun : Option KeyConfig :=
  sampleKeySystem.exec (Admits (KeyCall.Current sampleEnvironment "did:sampraan:holder"))
    (Config.initial sampleWorld)
    (System.sequence 0 [(.rotate "routine", 2), (.setStatus .revoked, 2), (.setStatus .active, 2)])

theorem converges_sample :
    ∃ c, c.log.length = 6 ∧ Converges sampleEnvironment "did:sampraan:holder" c := by
  have hrun : sequentialRun.isSome := by rfl
  have hlength : (sequentialRun.get hrun).log.length = 6 := by decide +revert
  have hc := System.exec_reach (fun m hm => System.harmless_of_mem_sequence hm)
    (Option.some_get hrun).symm
  exact ⟨sequentialRun.get hrun, hlength,
    converges sampleEnvironment "did:sampraan:holder" sample_keysInOrder hc⟩

/-- Two rotations read the first key. Two more lead to the third before the first of them commits
the second again; then the key is revoked, and the other one commits. -/
def staleMoves : List (Move KeyCall World) :=
  [.start 0 (.rotate "stale"), .run 0, .start 1 (.rotate "staler"), .run 1,
    .start 2 (.rotate "second"), .run 2, .run 2, .start 3 (.rotate "third"), .run 3, .run 3,
    .run 0, .start 4 (.setStatus .revoked), .run 4, .run 4, .run 1]

def staleRun : Option KeyConfig :=
  sampleKeySystem.exec (fun _ _ => True) (Config.initial sampleWorld) staleMoves

/-- The generation falls, two keys are active, and a rotation lifts a revocation. -/
theorem not_converges : KeysInOrder sampleEnvironment "did:sampraan:holder" sampleWorld ∧
    ∃ c, sampleKeySystem.Reachable sampleWorld c ∧
      ¬ Converges sampleEnvironment "did:sampraan:holder" c ∧
      (∃ e ∈ c.log, generation sampleEnvironment "did:sampraan:holder" e.2.2 <
        generation sampleEnvironment "did:sampraan:holder" e.2.1) ∧
      (∃ row ∈ keyHistory "did:sampraan:holder" c.shared,
        ∃ row' ∈ keyHistory "did:sampraan:holder" c.shared,
          row.status = .active ∧ row'.status = .active ∧ row ≠ row') ∧
      (∃ e ∈ c.log, KeyRevoked "did:sampraan:holder" e.2.2) ∧
      ¬ KeyRevoked "did:sampraan:holder" c.shared ∧
      ∀ e ∈ c.log, ∀ th ∈ c.threads e.1, th.call ≠ .setStatus .active := by
  have hrun : staleRun.isSome := by rfl
  have hfalls : ∃ e ∈ (staleRun.get hrun).log,
      generation sampleEnvironment "did:sampraan:holder" e.2.2 <
        generation sampleEnvironment "did:sampraan:holder" e.2.1 := by
    decide +revert
  refine ⟨sample_keysInOrder, staleRun.get hrun, ?_, fun h => ?_, hfalls, ?_, ?_, ?_, ?_⟩
  · exact System.exec_reach (System.harmless_of_all_ofCall (by rfl)) (Option.some_get hrun).symm
  · obtain ⟨e, he, hlt⟩ := hfalls
    exact absurd (h.forward e he) (Nat.not_le.mpr hlt)
  · clear hfalls
    decide +revert
  · clear hfalls
    decide +revert
  · clear hfalls
    decide +revert
  · clear hfalls
    decide +revert

end Sampraan.Did
