import Sampraan.Did.StepUp
import Sampraan.Library.Decimal

/-! The lifecycle of a DID's key in `did-auth.service.ts`: rotation and revocation. -/

namespace Sampraan.Did

open Backend Library

variable (env : Environment)

/-- The number between `key-` and the next dash, as the source's regular expression captures it. -/
def keyGeneration (keyIdentifier : String) : Option ℕ :=
  if "key-".toList.isPrefixOf keyIdentifier.toList then
    let rest := keyIdentifier.toList.drop 4
    let digits := rest.takeWhile Char.isDigit
    if digits ≠ [] ∧ (rest.drop digits.length).head? = some '-' then
      some (digits.foldl (fun n c => 10 * n + (c.toNat - '0'.toNat)) 0)
    else none
  else none

theorem keyGeneration_keyIdentifierFor (did : String) (n : ℕ) :
    keyGeneration (keyIdentifierFor env did n) = some n := by
  let digest := (sliceTo 12 (env.sha256.text (did ++ s!"#{n}"))).toList
  have hlist : (keyIdentifierFor env did n).toList =
      "key-".toList ++ (Nat.toDigits 10 n ++ '-' :: digest) := by
    simp [keyIdentifierFor, Nat.toList_repr, digest, toString]
  have hprefix : "key-".toList.isPrefixOf (keyIdentifierFor env did n).toList = true := by
    rw [hlist, List.isPrefixOf_iff_prefix]
    exact List.prefix_append _ _
  have hrest : (keyIdentifierFor env did n).toList.drop 4 = Nat.toDigits 10 n ++ '-' :: digest := by
    rw [hlist]
    rfl
  simp only [keyGeneration, hprefix, if_true, hrest]
  rw [Decimal.takeWhile_toDigits_append n (by simp), Decimal.foldl_toDigits]
  simp [Nat.toDigits_ne_nil]

example : keyGeneration "key-12-5ca1ab1e" = some 12 := by decide

def nextGeneration (previousKeyIdentifier : String) : ℕ :=
  (keyGeneration previousKeyIdentifier).getD 1 + 1

/-- `INSERT … ON DUPLICATE KEY UPDATE` on the history of keys. -/
def upsertDidKeyRecord (row : DidKeyRecordRow) (f : DidKeyRecordRow → DidKeyRecordRow)
    (rows : List DidKeyRecordRow) : List DidKeyRecordRow :=
  let isRow (r : DidKeyRecordRow) := r.did == row.did && r.keyIdentifier == row.keyIdentifier
  if rows.any isRow then Table.update isRow f rows else rows ++ [row]

/-- The transaction of `rotateDidKey`. -/
def rotateIn (rotation : KeyRotation) (note : String) (w : World) : World :=
  { w with
    didKeyRecords :=
      upsertDidKeyRecord
        { did := rotation.did
          keyIdentifier := rotation.newKeyIdentifier
          status := .active
          supersededByKeyIdentifier := none
          note := some note }
        (fun r => { r with status := .active })
        (upsertDidKeyRecord
          { did := rotation.did
            keyIdentifier := rotation.previousKeyIdentifier
            status := .rotated
            supersededByKeyIdentifier := some rotation.newKeyIdentifier
            note := some note }
          (fun r =>
            { r with
              status := .rotated
              supersededByKeyIdentifier := some rotation.newKeyIdentifier })
          w.didKeyRecords)
    didRecords := Table.update (·.did == rotation.did)
      (fun r => { r with keyStatus := .active, keyIdentifier := some rotation.newKeyIdentifier })
      w.didRecords
    keyRotations := w.keyRotations ++ [rotation] }

/-- The rotation, or the reason of its refusal. -/
def rotateDidKey (did note : String) : Promise (Except String KeyRotation) :=
  if !env.databaseConfigured then pure (.error "Database unavailable")
  else do
    match ← selectDidRecord did with
    | none => pure (.error "DID not found")
    | some record =>
      if record.status = .revoked then pure (.error "A revoked DID cannot rotate keys")
      else if record.keyStatus = .revoked then
        pure (.error
          "A revoked key cannot rotate — issue a new DID or re-activate administratively")
      else do
        let previousKeyIdentifier := currentKeyIdentifier env record
        let rotation : KeyRotation :=
          { did := did
            previousKeyIdentifier := previousKeyIdentifier
            newKeyIdentifier := keyIdentifierFor env did (nextGeneration previousKeyIdentifier) }
        Async.statement fun w => ((), rotateIn rotation note w)
        pure (.ok rotation)

/-- The statuses that `setDidKeyStatus` is called with. -/
inductive KeySwitch where
  | active
  | revoked
  deriving DecidableEq

def KeySwitch.keyStatus : KeySwitch → KeyStatus
  | .active => .active
  | .revoked => .revoked

def KeySwitch.note : KeySwitch → String
  | .active => "Key re-activated"
  | .revoked => "Key revoked administratively"

/-- The transaction of `setDidKeyStatus`. -/
def setKeyStatusIn (did keyIdentifier : String) (switch : KeySwitch) (w : World) : World :=
  { w with
    didRecords := Table.update (·.did == did) (fun r => { r with keyStatus := switch.keyStatus })
      w.didRecords
    didKeyRecords :=
      upsertDidKeyRecord
        { did := did
          keyIdentifier := keyIdentifier
          status := switch.keyStatus
          supersededByKeyIdentifier := none
          note := some switch.note }
        (fun r => { r with status := switch.keyStatus })
        w.didKeyRecords }

def setDidKeyStatus (did : String) (switch : KeySwitch) : Promise (Except String Unit) :=
  if !env.databaseConfigured then pure (.error "Database unavailable")
  else do
    match ← selectDidRecord did with
    | none => pure (.error "DID not found")
    | some record => do
      let keyIdentifier := currentKeyIdentifier env record
      Async.statement fun w => ((), setKeyStatusIn did keyIdentifier switch w)
      pure (.ok ())

end Sampraan.Did
