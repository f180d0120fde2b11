import Sampraan.Backend.ApprovalTables
import Sampraan.Blockchain.SubmitQueue

/-! The rule engine of `intelligence.service.ts`. -/

namespace Sampraan.SecurityIntelligence

open Backend Library
open Blockchain.SubmitQueue (includes)

variable (env : Environment)

def denialAlertThreshold : ℕ := 3

def defaultWindow : ℕ := 200

/-- `new Date().toISOString().slice(0, 10)` -/
def dayOf (now : Time) : String := sliceTo 10 (toISOString now)

def alertKey (rule : String) (identityId : Option String) (day : String) : String :=
  let subject := identityId.getD "system"
  s!"{rule}:{subject}:{day}"

def fingerprint (key : String) : String := s!"rule-fingerprint:{key}"

/-! ### Alerts -/

structure AlertInput where
  key : String
  title : String
  severity : AlertSeverity
  status : AlertStatus
  identityId : Option String
  assetId : Option String
  description : String
  riskScore : ℕ
  deriving DecidableEq

structure FiredRule where
  rule : String
  identityId : Option String
  count : ℕ
  deriving DecidableEq

/-- What a rule has found, with the alert for it. -/
structure Finding where
  fired : FiredRule
  alert : AlertInput
  deriving DecidableEq

/-- What a scan has read. -/
structure ScanView where
  events : List AuditEventRow
  identities : List IdentityRow
  day : String

/-! ### Counting -/

def actorsOf (p : AuditEventRow → Bool) (events : List AuditEventRow) : List String :=
  events.filterMap fun event => if p event then event.actorIdentityId.filter (· ≠ "") else none

/-- The entries of the map that counts them, in the order of their first occurrence. -/
def tally (ids : List String) : List (String × ℕ) := ids.eraseDups.map fun id => (id, ids.count id)

def actionIs (action : String) (event : AuditEventRow) : Bool := event.action == action

def ScanView.identity (view : ScanView) (id : String) : Option IdentityRow :=
  view.identities.find? (·.id == id)

def ScanView.name (view : ScanView) (id : String) : String :=
  ((view.identity id).map IdentityRow.did).getD id

def isBarred (identity : IdentityRow) : Bool :=
  identity.status == .revoked || identity.status == .suspended

def revokedIds (identities : List IdentityRow) : List String :=
  (identities.filter isBarred).map IdentityRow.id

/-- What differs between the alerts of one rule. -/
structure AlertText where
  title : String
  severity : AlertSeverity
  description : String
  riskScore : ℕ

def finding (rule : String) (identityId : Option String) (day : String) (count : ℕ)
    (text : AlertText) : Finding where
  fired := { rule := rule, identityId := identityId, count := count }
  alert :=
    { key := alertKey rule identityId day
      title := text.title
      severity := text.severity
      status := .opened
      identityId := identityId
      assetId := none
      description := text.description
      riskScore := text.riskScore }

/-- A rule about each identity whose events count at least `threshold`. -/
def perIdentity (rule : String) (threshold : ℕ) (p : AuditEventRow → Bool)
    (text : String → ℕ → AlertText) (view : ScanView) : List Finding :=
  (tally (actorsOf p view.events)).filterMap fun (identityId, count) =>
    if count < threshold then none
    else some (finding rule (some identityId) view.day count (text identityId count))

/-- A rule about all the events. -/
def systemWide (rule : String) (threshold : ℕ) (p : AuditEventRow → Bool) (text : ℕ → AlertText)
    (view : ScanView) : List Finding :=
  let count := view.events.countP p
  if count < threshold then [] else [finding rule none view.day count (text count)]

/-! ### The rules -/

def repeatedDenials (view : ScanView) : List Finding :=
  perIdentity "R1-REPEATED-DENIALS" denialAlertThreshold (actionIs "AUTHORIZATION_DENIED")
    (fun identityId count =>
      { title := s!"Repeated authorization denials ({count} in recent window)"
        severity := if 6 ≤ count then .high else .medium
        description := s!"Advisory rule R1: identity {view.name identityId} accumulated {count} " ++
          s!"denied authorization requests in the last {view.events.length} audit events. Pattern " ++
          "may indicate probing."
        riskScore := min 95 (40 + count * 5) }) view

/-- The rule has no threshold. -/
def revokedActivity (view : ScanView) : List Finding :=
  perIdentity "R2-REVOKED-ACTIVITY" 0
    (fun event => event.actorIdentityId.any (revokedIds view.identities).contains)
    (fun identityId count =>
      let status := (view.identity identityId).map IdentityRow.status
      let activity := if status = some .suspended then "suspended" else "revoked"
      let standing := (status.map fun s => toLowerCase s.label).getD "non-active"
      { title := s!"Activity from {activity} identity"
        severity := .high
        description := s!"Advisory rule R2: {count} audit event(s) recorded under {standing} " ++
          s!"identity {view.name identityId}. The authorization boundary rejected its session; " ++
          "this signal is for investigators."
        riskScore := 80 }) view

def chainFailures (view : ScanView) : List Finding :=
  systemWide "R3-CHAIN-FAILURES" 1
    (fun event => actionIs "BLOCKCHAIN_TRANSACTION_FAILED" event ||
      actionIs "BLOCKCHAIN_ANCHOR_FAILED" event)
    (fun count =>
      { title := s!"Blockchain submission failures ({count})"
        severity := if 3 ≤ count then .high else .medium
        description := s!"Advisory rule R3: {count} blockchain transaction/anchor failure(s) in " ++
          "the recent audit window. Anchoring is best-effort by design, but clusters of failures " ++
          "may indicate chain or operator-key issues."
        riskScore := if 3 ≤ count then 75 else 55 }) view

def sensitiveAttempts (view : ScanView) : List Finding :=
  perIdentity "R4-SENSITIVE-ATTEMPTS" 3 (actionIs "AUTHORIZATION_CHALLENGED")
    (fun identityId count =>
      { title := s!"Repeated sensitive-asset access attempts ({count})"
        severity := if 6 ≤ count then .high else .medium
        description := s!"Advisory rule R4: identity {view.name identityId} triggered {count} " ++
          "step-up CHALLENGE decisions in the recent window — possible probing of highly " ++
          "sensitive assets."
        riskScore := min 90 (45 + count * 5) }) view

def stepUpFailures (view : ScanView) : List Finding :=
  perIdentity "R5-STEP-UP-FAILURES" 2 (actionIs "STEP_UP_FAILED")
    (fun identityId count =>
      { title := s!"Repeated step-up verification failures ({count})"
        severity := .high
        description := s!"Advisory rule R5: identity {view.name identityId} failed " ++
          s!"server-verified step-up {count} time(s) in the recent window — possible replay or " ++
          "key misuse."
        riskScore := min 95 (60 + count * 8) }) view

def transferBurst (view : ScanView) : List Finding :=
  perIdentity "R6-TRANSFER-BURST" 5 (actionIs "ASSET_TRANSFERRED")
    (fun identityId count =>
      { title := s!"Unusual custody transfer activity ({count} transfers)"
        severity := .medium
        description := s!"Advisory rule R6: identity {view.name identityId} confirmed {count} " ++
          "on-chain custody transfers in the recent audit window — verify this operational burst " ++
          "is expected."
        riskScore := min 85 (40 + count * 4) }) view

def loginFailures (view : ScanView) : List Finding :=
  systemWide "R7-LOGIN-FAILURES" 5
    (fun event => actionIs "LOGIN_FAILED" event || actionIs "LOGIN_THROTTLED" event)
    (fun count =>
      { title := s!"Repeated login failures ({count})"
        severity := if 10 ≤ count then .high else .medium
        description := s!"Advisory rule R7: {count} failed/throttled login attempt(s) in the " ++
          "recent audit window — possible credential guessing against local accounts. Per-account " ++
          "throttling is enforced by the login path; this signal is for investigators."
        riskScore := if 10 ≤ count then 70 else 50 }) view

/-- The rules look only at what has been read before the first alert. -/
def findings (view : ScanView) : List Finding :=
  repeatedDenials view ++ revokedActivity view ++ chainFailures view ++ sensitiveAttempts view ++
    stepUpFailures view ++ transferBurst view ++ loginFailures view

/-! ### upsertAlert -/

def listIdentities : Promise (List IdentityRow) :=
  if !env.databaseConfigured then pure [] else Async.query fun w => w.identities.reverse

def listSecurityAlerts : Promise (List SecurityAlertRow) :=
  if !env.databaseConfigured then pure [] else Async.query fun w => w.securityAlerts.reverse

def insertAlert (row : SecurityAlertRow) (w : World) : World :=
  { w with securityAlerts := w.securityAlerts ++ [row] }

/-- The id is a fresh `crypto.randomUUID()`. -/
def createSecurityAlert (row : SecurityAlertRow) : Promise (Option SecurityAlertRow) :=
  if !env.databaseConfigured then pure none
  else do
    Async.statement fun w => ((), insertAlert row w)
    Async.query fun w => w.securityAlerts.find? (·.id == row.id)

inductive UpsertResult where
  | created
  | suppressed
  | failed
  deriving DecidableEq

def alertRow (uuid : String) (input : AlertInput) : SecurityAlertRow where
  id := uuid
  title := input.title
  severity := input.severity
  status := input.status
  identityId := input.identityId
  assetId := input.assetId
  description := s!"{input.description} [{fingerprint input.key}]"
  riskScore := some input.riskScore

def marked (key : String) (alert : SecurityAlertRow) : Bool :=
  includes alert.description (fingerprint key)

def upsertAlert (uuid : String) (input : AlertInput) : Promise UpsertResult :=
  (do
    let existing ← listSecurityAlerts env
    if existing.any (marked input.key) then pure .suppressed
    else do
      let _ ← createSecurityAlert env (alertRow uuid input)
      pure .created : Promise UpsertResult).recover fun _ => pure .failed

/-! ### scan -/

structure ScanResult where
  scanned : ℕ
  created : ℕ
  suppressed : ℕ
  rules : List FiredRule
  deriving DecidableEq

def ScanResult.record (result : ScanResult) (fired : FiredRule) : UpsertResult → ScanResult
  | .created => { result with created := result.created + 1, rules := result.rules ++ [fired] }
  | _ => { result with suppressed := result.suppressed + 1 }

/-- `uuids` gives the ids of the alerts, `index` the number of findings before these. -/
def raiseAlerts (uuids : ℕ → String) : ℕ → List Finding → ScanResult → Promise ScanResult
  | _, [], result => pure result
  | index, found :: rest, result => do
    let outcome ← upsertAlert env (uuids index) found.alert
    raiseAlerts uuids (index + 1) rest (result.record found.fired outcome)

def scan (windowEvents : Option ℕ) (uuids : ℕ → String) : Promise ScanResult := do
  let events ← listAuditEvents env (windowEvents.getD defaultWindow)
  if events.length = 0 then pure { scanned := 0, created := 0, suppressed := 0, rules := [] }
  else do
    let identities ← listIdentities env
    let now ← Async.query World.now
    raiseAlerts env uuids 0
      (findings { events := events, identities := identities, day := dayOf now })
      { scanned := events.length, created := 0, suppressed := 0, rules := [] }

end Sampraan.SecurityIntelligence
