import Sampraan.Backend.IdentityTables

/-! The functions of `db.ts` on key recovery requests. -/

namespace Sampraan.Backend

open Library

variable (env : Environment)

structure CreateKeyRecoveryRequest where
  subjectIdentityId : String
  requestedByIdentityId : String
  newKeyDigest : String

def keyRecoveryRequestRow (id : String) (input : CreateKeyRecoveryRequest) :
    KeyRecoveryRequestRow where
  id := id
  subjectIdentityId := input.subjectIdentityId
  requestedByIdentityId := input.requestedByIdentityId
  newKeyDigest := input.newKeyDigest
  status := .pending
  decidedByIdentityId := none
  decisionReason := none
  executedAt := none

def insertKeyRecoveryRequest (row : KeyRecoveryRequestRow) (w : World) : Option World :=
  if w.keyRecoveryRequests.any (·.id == row.id) then none
  else some { w with keyRecoveryRequests := w.keyRecoveryRequests ++ [row] }

def selectKeyRecoveryRequest (id : String) : Promise (Option KeyRecoveryRequestRow) :=
  Async.query fun w => w.keyRecoveryRequests.find? (·.id == id)

def createKeyRecoveryRequest (id : String) (input : CreateKeyRecoveryRequest) :
    Promise (Option KeyRecoveryRequestRow) :=
  if !env.databaseConfigured then pure none
  else do
    insert (insertKeyRecoveryRequest (keyRecoveryRequestRow id input))
    selectKeyRecoveryRequest id

def getKeyRecoveryRequest (id : String) : Promise (Option KeyRecoveryRequestRow) :=
  if !env.databaseConfigured then pure none else selectKeyRecoveryRequest id

/-- `patch` is given the time of the statement, which stands for a `new Date()` in its caller. -/
def updateRecoveryRequests (id : String) (patch : Time → KeyRecoveryRequestRow → KeyRecoveryRequestRow)
    (w : World) : World :=
  { w with keyRecoveryRequests := Table.update (·.id == id) (patch w.now) w.keyRecoveryRequests }

def updateKeyRecoveryRequest (id : String)
    (patch : Time → KeyRecoveryRequestRow → KeyRecoveryRequestRow) :
    Promise (Option KeyRecoveryRequestRow) :=
  if !env.databaseConfigured then pure none
  else do
    Async.statement fun w => ((), updateRecoveryRequests id patch w)
    selectKeyRecoveryRequest id

end Sampraan.Backend
