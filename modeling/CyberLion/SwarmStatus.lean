import CyberLion.FleetCoordinationState

/-!
# The swarm status store

`contracts/swarm_status.py` and `SwarmStatusStore` of
`enterprise/swarm_status.py`.  A call is one transaction of the database: it
returns the new tables with the text of the status file, or raises and leaves
the tables as they were.  The fence of the governor, which runs around the
transaction, is an argument of a call.

A JSON column is kept as the value that it is read back to.
-/

namespace CyberLion

namespace SwarmStatus

open PyLib
open FleetCoordination (ClockReading iterate optionalText)

/-! ### Contract -/

def contractErrorClass : ErrorClass :=
  .declared .valueError (py "SwarmStatusError")

/-- `SwarmStatusError(message)`. -/
def contractError (message : PyStr) : PyError :=
  ⟨contractErrorClass, message⟩

inductive ActionState
  | planned
  | accepted
  | started
  | inProgress
  | blocked
  | verifying
  | completed
  | failed
  | cancelled
  | superseded
  deriving DecidableEq

namespace ActionState

def text : ActionState → PyStr
  | planned => py "PLANNED"
  | accepted => py "ACCEPTED"
  | started => py "STARTED"
  | inProgress => py "IN_PROGRESS"
  | blocked => py "BLOCKED"
  | verifying => py "VERIFYING"
  | completed => py "COMPLETED"
  | failed => py "FAILED"
  | cancelled => py "CANCELLED"
  | superseded => py "SUPERSEDED"

/-- Membership in `TERMINAL_ACTION_STATES`. -/
def isTerminal : ActionState → Bool
  | completed | failed | cancelled | superseded => true
  | _ => false

def transitions : ActionState → List ActionState
  | planned => [accepted, cancelled, superseded]
  | accepted => [started, cancelled, superseded]
  | started => [inProgress, blocked, verifying, completed, failed, cancelled, superseded]
  | inProgress => [blocked, verifying, completed, failed, cancelled, superseded]
  | blocked => [inProgress, failed, cancelled, superseded]
  | verifying => [completed, failed, blocked, superseded]
  | _ => []

def transitionAllowed (old new : ActionState) : Bool :=
  if old.isTerminal then false else old.transitions.contains new

end ActionState

def eventState : List (PyStr × ActionState) :=
  [(py "ACTION_PLANNED", .planned), (py "ACTION_ACCEPTED", .accepted),
    (py "ACTION_STARTED", .started), (py "ACTION_PROGRESS", .inProgress),
    (py "ACTION_BLOCKED", .blocked), (py "ACTION_VERIFYING", .verifying),
    (py "ACTION_COMPLETED", .completed), (py "ACTION_FAILED", .failed),
    (py "ACTION_CANCELLED", .cancelled), (py "ACTION_SUPERSEDED", .superseded)]

def reportTypes : List PyStr :=
  eventState.map Prod.fst ++
    [py "STATUS_REPORT", py "ROLE_ACCEPTED", py "ROLE_RELEASED", py "FORMATION_PROPOSED",
      py "FORMATION_JOINED", py "FORMATION_SPLIT", py "FORMATION_MERGED", py "BLOCKER",
      py "HANDOFF", py "EVIDENCE", py "VERIFY_REQUEST", py "RECONCILIATION"]

def canonicalJson (value : Json) : Except PyError Utf8Bytes := do
  let text ← Json.dumps false true value
  encodeUtf8 text

def digest (value : Json) : Except PyError PyStr := do
  let bytes ← canonicalJson value
  return sha256 bytes

/-- The fields that `logical_status_payload` leaves out. -/
def excludedFields : List PyStr :=
  [py "revision", py "status_digest", py "previous_status_digest", py "revision_digest",
    py "previous_revision_digest", py "generated_at"]

abbrev Status := List (PyStr × Json)

def logicalStatusPayload (status : Status) : Status :=
  status.filter fun field => !excludedFields.contains field.1

def computeStatusDigest (status : Status) : Except PyError PyStr :=
  digest (.obj (logicalStatusPayload status))

def computeRevisionDigest (revision statusDigest previousRevisionDigest : Json) :
    Except PyError PyStr :=
  digest (.obj [(py "revision", revision), (py "status_digest", statusDigest),
    (py "previous_revision_digest", previousRevisionDigest)])

structure StatusReport where
  operationId : PyStr
  expectedRevision : Int
  expectedStatusDigest : PyStr
  reporterDroneId : PyStr
  missionId : PyStr
  eventType : PyStr
  payload : List (PyStr × Json)
  evidenceRefs : List PyStr
  observedAt : PyStr

namespace StatusReport

def textField (name value : PyStr) : Except PyError Unit :=
  raiseIf (isBlank value = true) (contractError (name ++ py " invalid"))

def validate (report : StatusReport) : Except PyError Unit := do
  textField (py "operation_id") report.operationId
  textField (py "expected_status_digest") report.expectedStatusDigest
  textField (py "reporter_drone_id") report.reporterDroneId
  textField (py "mission_id") report.missionId
  textField (py "observed_at") report.observedAt
  raiseIf (report.expectedRevision < 0) (contractError (py "expected_revision invalid"))
  raiseIf (report.eventType ∉ reportTypes) (contractError (py "unknown event_type"))
  raiseIf (report.evidenceRefs = []) (contractError (py "evidence_refs required"))

/-- The `raw` dictionary of `apply_report`. -/
def raw (report : StatusReport) : List (PyStr × Json) :=
  [(py "operation_id", .str report.operationId),
    (py "expected_revision", .int report.expectedRevision),
    (py "expected_status_digest", .str report.expectedStatusDigest),
    (py "reporter_drone_id", .str report.reporterDroneId),
    (py "mission_id", .str report.missionId), (py "event_type", .str report.eventType),
    (py "payload", .obj report.payload),
    (py "evidence_refs", .arr (report.evidenceRefs.map Json.str)),
    (py "observed_at", .str report.observedAt)]

end StatusReport

/-! ### Tables -/

def stateErrorClass : ErrorClass :=
  .declared .runtimeError (py "SwarmStatusStateError")

/-- `SwarmStatusStateError(message)`. -/
def stateError (message : PyStr) : PyError :=
  ⟨stateErrorClass, message⟩

structure ActionRecord where
  actionId : PyStr
  missionId : PyStr
  droneId : PyStr
  role : Json
  formationId : Json
  state : ActionState
  startedAt : Option PyStr
  completedAt : Option PyStr
  evidenceRefs : List PyStr
  correlationId : Json
  resultRefs : Option (List Json)

def ActionRecord.toJson (record : ActionRecord) : Json :=
  .obj ([(py "action_id", .str record.actionId), (py "mission_id", .str record.missionId),
    (py "drone_id", .str record.droneId), (py "role", record.role),
    (py "formation_id", record.formationId), (py "state", .str record.state.text),
    (py "started_at", optionalText record.startedAt),
    (py "completed_at", optionalText record.completedAt),
    (py "evidence_refs", .arr (record.evidenceRefs.map Json.str)),
    (py "correlation_id", record.correlationId)] ++
    match record.resultRefs with
    | none => []
    | some refs => [(py "result_refs", .arr refs)])

structure StatusMeta where
  revision : Nat
  statusDigest : PyStr
  previousStatusDigest : PyStr
  revisionDigest : PyStr
  previousRevisionDigest : PyStr
  generatedAt : PyStr
  context : List (PyStr × Json)

structure OperationRow where
  operationId : PyStr
  payloadDigest : PyStr
  deriving DecidableEq

structure ReportRow where
  operationId : PyStr
  report : List (PyStr × Json)

/-- The tables with the `meta` row. -/
structure StatusDb where
  info : StatusMeta
  operations : List OperationRow
  currentActions : List ActionRecord
  history : List ActionRecord
  reports : List ReportRow

def zeroDigest : PyStr :=
  pyRepeat (digitPoint 0) 64

/-- `_jd` and the binding of its text to a column. -/
def bindJson (value : Json) : Except PyError Unit := do
  let text ← Json.dumps false true value
  let _ ← encodeUtf8 text
  return ()

def storedFields (fields : List (PyStr × Json)) : List (PyStr × Json) :=
  Json.sortFields (Json.sortMembers fields)

/-- `ORDER BY action_id`. -/
def sortedActions (records : List ActionRecord) : List ActionRecord :=
  records.insertionSort fun first second => first.actionId ≤ second.actionId

/-- The dictionary `_projection` builds: the caller's context lies between the
fields of the store. -/
def StatusDb.projection (systemId : PyStr) (db : StatusDb) : Status :=
  dictOfPairs ([(py "schema_version", .str (py "1.0.0")), (py "system_id", .str systemId),
    (py "revision", .int db.info.revision), (py "status_digest", .str db.info.statusDigest),
    (py "previous_status_digest", .str db.info.previousStatusDigest),
    (py "revision_digest", .str db.info.revisionDigest),
    (py "previous_revision_digest", .str db.info.previousRevisionDigest)] ++
    db.info.context ++
    [(py "current_actions", .arr ((sortedActions db.currentActions).map ActionRecord.toJson)),
      (py "history", .arr ((sortedActions db.history).map ActionRecord.toJson)),
      (py "generated_at", .str db.info.generatedAt)])

/-- `status[key]` for a key of the projection. -/
def Status.field (status : Status) (key : PyStr) : Json :=
  (status.lookup key).getD .null

def fileBytes (status : Status) : Except PyError Utf8Bytes := do
  let bytes ← canonicalJson (.obj status)
  return bytes.append ⟨py "\n", by decide⟩

/-! ### Recomputing the digests -/

def isHashable : Json → Bool
  | .arr _ | .obj _ => false
  | _ => true

/-- `s["status_digest"] not in {_ZERO, logical}` raises. -/
def checkStoredDigest (stored : Json) (logical : PyStr) : Except PyError Unit :=
  match stored with
  | .str text => raiseIf (text ≠ zeroDigest ∧ text ≠ logical)
      (stateError (py "status projection corruption"))
  | other =>
    if isHashable other then .error (stateError (py "status projection corruption"))
    else .error ⟨.typeError, py "unhashable type"⟩

/-- The tables, the file and the projection that `_recompute_and_write`
leaves. -/
structure Written where
  db : StatusDb
  file : Utf8Bytes
  status : Status

def StatusDb.withDigests (db : StatusDb) (statusDigest revisionDigest : PyStr) : StatusDb :=
  { db with info := { db.info with
      statusDigest := statusDigest, revisionDigest := revisionDigest } }

def StatusDb.recomputeAndWrite (systemId : PyStr) (db : StatusDb) (verifyExisting : Bool) :
    Except PyError Written := do
  let status := db.projection systemId
  let logical ← computeStatusDigest status
  let revisionDigest ← computeRevisionDigest (status.field (py "revision")) (.str logical)
    (status.field (py "previous_revision_digest"))
  (if verifyExisting then checkStoredDigest (status.field (py "status_digest")) logical
    else .ok ())
  let updated := db.withDigests logical revisionDigest
  let projected := updated.projection systemId
  let file ← fileBytes projected
  return ⟨updated, file, projected⟩

/-! ### Actions -/

structure Interpreter where
  /-- `repr` of a list or of a dictionary. -/
  repr : Json → PyStr
  /-- `sorted(set(items))`. -/
  sortedSet : List Json → Except PyError (List Json)

/-- `str(value)`. -/
def strOf (interpreter : Interpreter) : Json → PyStr
  | .str text => text
  | .int value => intText value
  | .float literal => literal
  | .bool true => py "True"
  | .bool false => py "False"
  | .null => py "None"
  | value => interpreter.repr value

/-- `sorted(set(texts))`. -/
def sortedTexts (texts : List PyStr) : List PyStr :=
  pySorted texts.dedup

def textOf? : Json → Option PyStr
  | .str text => some text
  | _ => none

/-- `sorted(set(value))`. -/
def sortedSetOf (interpreter : Interpreter) (value : Json) : Except PyError (List Json) := do
  let items ← iterate value
  match items.mapM textOf? with
  | some texts => return (sortedTexts texts).map Json.str
  | none => interpreter.sortedSet items

/-- `report.payload.get(key)`. -/
def StatusReport.payloadField (report : StatusReport) (key : PyStr) : Json :=
  (report.payload.lookup key).getD .null

/-- The `action_id` of a report. -/
def StatusReport.actionId (interpreter : Interpreter) (report : StatusReport) : PyStr :=
  strip (strOf interpreter ((report.payload.lookup (py "action_id")).getD (.str [])))

def plannedRecord (report : StatusReport) (actionId : PyStr) : ActionRecord where
  actionId := actionId
  missionId := report.missionId
  droneId := report.reporterDroneId
  role := report.payloadField (py "role")
  formationId := report.payloadField (py "formation_id")
  state := .planned
  startedAt := none
  completedAt := none
  evidenceRefs := sortedTexts report.evidenceRefs
  correlationId := report.payloadField (py "correlation_id")
  resultRefs := none

/-- The record of an action that a report moves to another state. -/
def movedRecord (report : StatusReport) (newState : ActionState) (record : ActionRecord) :
    ActionRecord :=
  { record with
    state := newState
    evidenceRefs := sortedTexts (record.evidenceRefs ++ report.evidenceRefs)
    startedAt := if newState = .started ∧ record.startedAt.getD [] = [] then
      some report.observedAt else record.startedAt }

def findAction (records : List ActionRecord) (actionId : PyStr) : Option ActionRecord :=
  records.find? fun record => record.actionId = actionId

namespace StatusDb

/-- `_apply_action` for an action that is planned. -/
def planAction (db : StatusDb) (report : StatusReport) (actionId : PyStr) :
    Except PyError StatusDb := do
  raiseIf ((findAction db.currentActions actionId).isSome = true ∨
      (findAction db.history actionId).isSome = true)
    (stateError (py "action already exists"))
  let record := plannedRecord report actionId
  bindJson record.toJson
  return { db with currentActions := db.currentActions ++ [record] }

/-- `DELETE FROM lion_current_action WHERE action_id=?`. -/
def removeAction (db : StatusDb) (actionId : PyStr) : List ActionRecord :=
  db.currentActions.filter fun record => record.actionId ≠ actionId

/-- `_apply_action` for an action that is known. -/
def moveAction (interpreter : Interpreter) (db : StatusDb) (report : StatusReport)
    (newState : ActionState) (record : ActionRecord) : Except PyError StatusDb := do
  raiseIf (¬ record.state.transitionAllowed newState = true)
    (stateError (py "illegal action transition " ++ record.state.text ++ py "->" ++
      newState.text))
  let moved := movedRecord report newState record
  if newState.isTerminal then
    let refs ← sortedSetOf interpreter ((report.payload.lookup (py "result_refs")).getD (.arr []))
    let finished :=
      { moved with completedAt := some report.observedAt, resultRefs := some refs }
    bindJson finished.toJson
    raiseIf ((findAction db.history record.actionId).isSome = true)
      (FleetCoordination.integrityError (py "UNIQUE constraint failed: lion_history.action_id"))
    return { db with
      currentActions := db.removeAction record.actionId
      history := db.history ++ [finished] }
  else do
    bindJson moved.toJson
    return { db with currentActions := db.currentActions.map fun other =>
      if other.actionId = record.actionId then moved else other }

def applyAction (interpreter : Interpreter) (db : StatusDb) (report : StatusReport)
    (newState : ActionState) : Except PyError StatusDb := do
  let actionId := report.actionId interpreter
  raiseIf (actionId = []) (stateError (py "action_id required"))
  let _ ← encodeUtf8 actionId
  if newState = .planned then db.planAction report actionId
  else
    match findAction db.currentActions actionId with
    | none => .error (stateError (py "action transition without current action"))
    | some record => db.moveAction interpreter report newState record

/-! ### The transactions -/

/-- The comparison of the expected revision and digest with the `meta` row. -/
def checkExpected (db : StatusDb) (expectedRevision : Int) (expectedStatusDigest : PyStr) :
    Except PyError Unit :=
  raiseIf (expectedRevision ≠ db.info.revision ∨ expectedStatusDigest ≠ db.info.statusDigest)
    (stateError (py "stale status CAS"))

def findOperation (db : StatusDb) (operationId : PyStr) : Option OperationRow :=
  db.operations.find? fun row => row.operationId = operationId

/-- The `meta` row of the next revision. -/
def nextRevision (db : StatusDb) (generatedAt : PyStr) (context : List (PyStr × Json)) :
    StatusDb :=
  { db with info := { db.info with
      revision := db.info.revision + 1
      previousStatusDigest := db.info.statusDigest
      previousRevisionDigest := db.info.revisionDigest
      generatedAt := generatedAt
      context := context } }

def logOperation (db : StatusDb) (operationId payloadDigest : PyStr) : StatusDb :=
  { db with operations := db.operations ++ [⟨operationId, payloadDigest⟩] }

def logReport (db : StatusDb) (report : StatusReport) : Except PyError StatusDb := do
  bindJson (.obj report.raw)
  raiseIf (∃ row ∈ db.reports, row.operationId = report.operationId)
    (FleetCoordination.integrityError
      (py "UNIQUE constraint failed: lion_status_report.operation_id"))
  return { db with reports := db.reports ++ [⟨report.operationId, storedFields report.raw⟩] }

end StatusDb

/-- What the transaction of an operation leaves: the tables and, unless the
operation is a known one, the file that was replaced. -/
structure Applied where
  db : StatusDb
  file : Option Utf8Bytes
  status : Status

def Written.applied (written : Written) : Applied :=
  ⟨written.db, some written.file, written.status⟩

namespace StatusDb

def replayed (systemId : PyStr) (db : StatusDb) (row : OperationRow) (payloadDigest : PyStr) :
    Except PyError Applied := do
  raiseIf (row.payloadDigest ≠ payloadDigest)
    (stateError (py "operation replay substitution denied"))
  return ⟨db, none, db.projection systemId⟩

def act (interpreter : Interpreter) (db : StatusDb) (report : StatusReport) :
    Except PyError StatusDb :=
  match eventState.lookup report.eventType with
  | some newState => db.applyAction interpreter report newState
  | none => .ok db

/-- The part of `apply_report` for an operation that is not known. -/
def applyNew (interpreter : Interpreter) (systemId : PyStr) (db : StatusDb)
    (report : StatusReport) (payloadDigest : PyStr) : Except PyError Applied := do
  let acted ← db.act interpreter report
  let logged ← (acted.logOperation report.operationId payloadDigest).logReport report
  let written ← (logged.nextRevision report.observedAt logged.info.context).recomputeAndWrite
    systemId false
  return written.applied

/-- The transaction of `apply_report`. -/
def applyReport (interpreter : Interpreter) (systemId : PyStr) (db : StatusDb)
    (report : StatusReport) : Except PyError Applied := do
  db.checkExpected report.expectedRevision report.expectedStatusDigest
  let payloadDigest ← digest (.obj report.raw)
  match db.findOperation report.operationId with
  | some row => db.replayed systemId row payloadDigest
  | none => db.applyNew interpreter systemId report payloadDigest

end StatusDb

/-- The arguments of `replace_context`. -/
structure ContextUpdate where
  context : List (PyStr × Json)
  operationId : PyStr
  expectedRevision : Int
  expectedStatusDigest : PyStr
  evidenceRefs : List PyStr

/-- The `payload` dictionary of `replace_context`. -/
def ContextUpdate.payload (update : ContextUpdate) : List (PyStr × Json) :=
  [(py "context", .obj update.context),
    (py "evidence_refs", .arr (update.evidenceRefs.map Json.str))]

def now (clock : ClockReading) : Except PyError PyStr := do
  let moment ← clock
  match moment with
  | .naive _ => .error (stateError (py "trusted clock must be timezone-aware"))
  | .aware time offset => do
    let utcTime ← time.astimezoneUtc offset
    return utcTime.isoformatUtc

namespace StatusDb

/-- The part of `replace_context` for an operation that is not known. -/
def replaceNew (systemId : PyStr) (db : StatusDb) (clock : ClockReading)
    (update : ContextUpdate) (payloadDigest : PyStr) : Except PyError Applied := do
  bindJson (.obj update.context)
  let generatedAt ← now clock
  let logged := db.logOperation update.operationId payloadDigest
  let written ← (logged.nextRevision generatedAt
    (storedFields update.context)).recomputeAndWrite systemId false
  return written.applied

/-- The transaction of `replace_context`. -/
def replaceContext (systemId : PyStr) (db : StatusDb) (clock : ClockReading)
    (update : ContextUpdate) : Except PyError Applied := do
  db.checkExpected update.expectedRevision update.expectedStatusDigest
  let payloadDigest ← digest (.obj update.payload)
  let _ ← encodeUtf8 update.operationId
  match db.findOperation update.operationId with
  | some row => db.replayed systemId row payloadDigest
  | none => db.replaceNew systemId clock update payloadDigest

end StatusDb

/-! ### Opening a store -/

structure Storage where
  db : Option StatusDb
  file : Option Utf8Bytes

def initialDb (generatedAt : PyStr) (context : List (PyStr × Json)) : StatusDb where
  info := ⟨0, zeroDigest, zeroDigest, zeroDigest, zeroDigest, generatedAt, storedFields context⟩
  operations := []
  currentActions := []
  history := []
  reports := []

def verifyExternalFile (systemId : PyStr) (db : StatusDb) (raw : Utf8Bytes) :
    Except PyError Unit := do
  let expected ← fileBytes (db.projection systemId)
  raiseIf (raw ≠ expected) (stateError (py "external status modification detected"))

/-- The constructor on a database that has its `meta` row. -/
def reopen (systemId : PyStr) (db : StatusDb) (file : Option Utf8Bytes) :
    Except PyError Written := do
  match file with
  | some raw => verifyExternalFile systemId db raw
  | none => .ok ()
  db.recomputeAndWrite systemId true

/-- The row that the constructor inserts, for the time of the clock. -/
def insertInitial (clock : ClockReading) (context : List (PyStr × Json)) :
    Except PyError StatusDb := do
  let generatedAt ← now clock
  bindJson (.obj context)
  return initialDb generatedAt context

/-- The constructor.  It runs without a transaction: a row that was inserted
stays when the rest raises. -/
def openStatus (systemId : PyStr) (storage : Storage) (clock : ClockReading)
    (context : List (PyStr × Json)) : Storage × Except PyError Status :=
  match storage.db with
  | some db =>
    match reopen systemId db storage.file with
    | .ok written => (⟨some written.db, some written.file⟩, .ok written.status)
    | .error error => (storage, .error error)
  | none =>
    match insertInitial clock context with
    | .error error => (storage, .error error)
    | .ok db =>
      match db.recomputeAndWrite systemId false with
      | .ok written => (⟨some written.db, some written.file⟩, .ok written.status)
      | .error error => (⟨some db, storage.file⟩, .error error)

end SwarmStatus

end CyberLion
