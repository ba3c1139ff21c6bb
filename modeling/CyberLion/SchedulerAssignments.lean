import CyberLion.OperatorCommands
import CyberLion.PyIsoFormat

/-!
# The assignments of the scheduler

The functions of `mission_control/global_scheduler.py` that create, release, claim
and finish the assignments of a mission.  A function that rolls back when it raises
returns the new database or the exception; one that may commit and raise returns
both.
-/

namespace CyberLion

namespace GlobalScheduler

open PyLib OperatorControl

def canon (value : Json) : Except PyError PyStr :=
  Json.dumps false true value

def digest (value : Json) : Except PyError PyStr := do
  let text ← canon value
  let bytes ← encodeUtf8 text
  return sha256 bytes

/-- The `capability` of an input that is a dictionary. -/
def capabilityOf : Json → Json
  | .obj fields => Json.get (py "capability") fields
  | _ => .null

def hasRevokedCapability (db : OperatorDb) (missionId : PyStr) (input : Json) : Bool :=
  match capabilityOf input with
  | .str capability => isCapabilityRevoked db missionId capability
  | _ => false

/-! ### Creation -/

structure AssignmentRequest where
  missionId : PyStr
  phaseId : PyStr
  logicalDroneId : PyStr
  materialDroneId : PyStr
  input : Json
  leaseGeneration : Int
  dispatchAuthority : PyStr

/-- The row of a new assignment.  The input is what `json.loads` makes of its text. -/
def AssignmentRequest.row (request : AssignmentRequest) (assignmentId inputDigest : PyStr)
    (state : AssignmentState) (control : ControlRow) (stamp : PyStr) : AssignmentRow where
  assignmentId := assignmentId
  missionId := request.missionId
  phaseId := request.phaseId
  logicalDroneId := request.logicalDroneId
  materialDroneId := request.materialDroneId
  inputDigest := inputDigest
  input := some request.input
  state := state
  leaseGeneration := request.leaseGeneration
  controlEpoch := control.controlEpoch
  contextRevision := control.contextRevision
  planRevision := control.planRevision
  dispatchAuthority := request.dispatchAuthority
  createdAt := stamp
  claimedAt := none
  leaseExpiresAt := none
  finishedAt := none

/-- `_create_assignment` after `control_state`, which commits by itself. -/
def insertRequest (db : OperatorDb) (request : AssignmentRequest) (state : AssignmentState)
    (control : ControlRow) (inputs : CallInputs) : Except PyError (OperatorDb × PyStr) := do
  raiseIf (assignmentAllowed db request.missionId request.dispatchAuthority
      control.controlEpoch = false)
    (valueError (py "operator control fence"))
  raiseIf (hasRevokedCapability db request.missionId request.input = true)
    (valueError (py "capability revoked by operator"))
  let inputDigest ← digest request.input
  let _ ← canon request.input
  let assignmentId := py "assignment-" ++ inputs.random 0
  let inserted ← insertAssignment db
    (request.row assignmentId inputDigest state control (inputs.now 0))
  return (inserted, assignmentId)

/-- `_create_assignment`. -/
def createIn (state : AssignmentState) (db : OperatorDb) (request : AssignmentRequest)
    (inputs : CallInputs) : OperatorDb × Except PyError PyStr :=
  if request.dispatchAuthority ≠ autonomousOwner ∧
      request.dispatchAuthority ≠ primaryOperator then
    (db, .error (valueError (py "dispatch authority")))
  else
    let (db, control) := controlState db request.missionId inputs
    match insertRequest db request state control (inputs.skip 1) with
    | .ok (inserted, assignmentId) => (inserted, .ok assignmentId)
    | .error error => (db, .error error)

def createAssignment : OperatorDb → AssignmentRequest → CallInputs →
    OperatorDb × Except PyError PyStr :=
  createIn .ready

def createHeldAssignment : OperatorDb → AssignmentRequest → CallInputs →
    OperatorDb × Except PyError PyStr :=
  createIn .held

/-! ### Release -/

def assignmentReleaseEvidenceSchema : PyStr := py "lion.assignment-release-evidence/v1"

def releaseEvidenceFields : List PyStr :=
  [py "schema", py "assignment_id", py "mission_id", py "material_drone_id",
    py "lease_generation", py "control_epoch", py "context_revision", py "plan_revision",
    py "capability", py "materialization_kind", py "provider_id", py "evidence_digest",
    py "authority_effect"]

/-- The fields of a piece of evidence that is a dictionary with exactly these. -/
def evidenceFields : Json → Except PyError (List (PyStr × Json))
  | .obj fields =>
    if (fields.map Prod.fst).all releaseEvidenceFields.contains &&
        releaseEvidenceFields.all (fields.map Prod.fst).contains then .ok fields
    else .error (valueError (py "assignment release evidence schema"))
  | _ => .error (valueError (py "assignment release evidence schema"))

def evidenceText (fields : List (PyStr × Json)) (key : PyStr) : Except PyError PyStr :=
  match Json.get key fields with
  | .str text =>
    if isBlank text ∨ hasNul text = true then
      .error (valueError (py "assignment release evidence identity"))
    else .ok text
  | _ => .error (valueError (py "assignment release evidence identity"))

def evidenceInt (fields : List (PyStr × Json)) (key : PyStr) (least : Int) :
    Except PyError Int :=
  match Json.get key fields with
  | .int value =>
    if value < least then .error (valueError (py "assignment release evidence integer"))
    else .ok value
  | _ => .error (valueError (py "assignment release evidence integer"))

structure ReleaseEvidence where
  assignmentId : PyStr
  missionId : PyStr
  materialDroneId : PyStr
  capability : PyStr
  leaseGeneration : Int
  controlEpoch : Int
  contextRevision : Int
  planRevision : Int

def releaseEvidence (evidence : Json) : Except PyError ReleaseEvidence := do
  let fields ← evidenceFields evidence
  raiseIf ((Json.get (py "schema") fields).asText ≠ some assignmentReleaseEvidenceSchema ∨
      (Json.get (py "authority_effect") fields).asText ≠ some (py "NONE"))
    (valueError (py "assignment release evidence authority"))
  let evidenceDigest := (Json.pyOr (Json.get (py "evidence_digest") fields) (.str [])).pyStr
  raiseIf (evidenceDigest.length ≠ 64 ∨ evidenceDigest.all CodePoint.isLowerHex = false)
    (valueError (py "assignment release evidence digest"))
  let assignmentId ← evidenceText fields (py "assignment_id")
  let missionId ← evidenceText fields (py "mission_id")
  let materialDroneId ← evidenceText fields (py "material_drone_id")
  let capability ← evidenceText fields (py "capability")
  let _ ← evidenceText fields (py "materialization_kind")
  let _ ← evidenceText fields (py "provider_id")
  let leaseGeneration ← evidenceInt fields (py "lease_generation") 1
  let controlEpoch ← evidenceInt fields (py "control_epoch") 0
  let contextRevision ← evidenceInt fields (py "context_revision") 0
  let planRevision ← evidenceInt fields (py "plan_revision") 0
  return ⟨assignmentId, missionId, materialDroneId, capability, leaseGeneration, controlEpoch,
    contextRevision, planRevision⟩

/-- `json.loads(row["input_json"] or "{}")`, whose `get` needs a dictionary. -/
def releaseInput (row : AssignmentRow) : Except PyError (List (PyStr × Json)) :=
  match row.input with
  | none => .error (valueError (py "assignment input unavailable"))
  | some (.obj fields) => .ok fields
  | some _ =>
    .error ⟨.declared .exception (py "AttributeError"), py "object has no attribute 'get'"⟩

def ReleaseEvidence.isOf (evidence : ReleaseEvidence) (row : AssignmentRow)
    (capability : Json) : Prop :=
  evidence.assignmentId = row.assignmentId ∧ evidence.missionId = row.missionId ∧
    evidence.materialDroneId = row.materialDroneId ∧
    evidence.leaseGeneration = row.leaseGeneration ∧
    evidence.controlEpoch = row.controlEpoch ∧
    evidence.contextRevision = row.contextRevision ∧
    evidence.planRevision = row.planRevision ∧ capability.asText = some evidence.capability

instance (evidence : ReleaseEvidence) (row : AssignmentRow) (capability : Json) :
    Decidable (evidence.isOf row capability) :=
  inferInstanceAs (Decidable (_ ∧ _ ∧ _ ∧ _ ∧ _ ∧ _ ∧ _ ∧ _))

def checkDriver (db : OperatorDb) (row : AssignmentRow) : Except PyError Unit :=
  match driverRow db row.missionId with
  | none => .error (valueError (py "stale assignment generation"))
  | some driver => do
    raiseIf (driver.generation ≠ row.leaseGeneration)
      (valueError (py "stale assignment generation"))
    raiseIf ([py "ACTIVE", py "WAITING", py "BLOCKED"].contains driver.state = false)
      (valueError (py "assignment driver not executable"))

def isNamed (assignmentId : PyStr) (state : AssignmentState) (row : AssignmentRow) : Bool :=
  row.assignmentId = assignmentId && row.state = state

def releaseFound (db : OperatorDb) (row : AssignmentRow) (assignmentId : PyStr)
    (evidence : ReleaseEvidence) (value : Json) (inputs : CallInputs) :
    Except PyError (OperatorDb × PyStr) := do
  raiseIf (row.state ≠ .held) (valueError (py "assignment not held"))
  raiseIf (∃ other ∈ db.releaseEvidence, other.assignmentId = assignmentId)
    (valueError (py "assignment release already recorded"))
  let fields ← releaseInput row
  raiseIf (¬ evidence.isOf row (Json.get (py "capability") fields))
    (valueError (py "assignment release coordinate substitution"))
  let (db, control) := controlState db row.missionId inputs
  raiseIf (assignmentAllowed db row.missionId row.dispatchAuthority row.controlEpoch = false)
    (valueError (py "operator control fence"))
  raiseIf ((control.controlEpoch, control.contextRevision, control.planRevision) ≠
      (row.controlEpoch, row.contextRevision, row.planRevision))
    (valueError (py "assignment release control/context/plan drift"))
  raiseIf (hasRevokedCapability db row.missionId (.obj fields) = true)
    (valueError (py "capability revoked by operator"))
  checkDriver db row
  let raw ← canon value
  let evidenceDigest ← digest value
  raiseIf ((db.assignments.countP (isNamed assignmentId .held)) ≠ 1)
    (valueError (py "assignment release race"))
  let released := updateAssignments db (isNamed assignmentId .held) fun row =>
    { row with state := .ready }
  return ({ released with
    releaseEvidence := db.releaseEvidence ++
      [⟨assignmentId, row.missionId, evidenceDigest, raw, inputs.now 1⟩] }, evidenceDigest)

/-- `release_held_assignment`: the new database and `release_evidence_digest`. -/
def releaseHeldAssignment (db : OperatorDb) (assignmentId : PyStr) (evidence : Json)
    (inputs : CallInputs) : Except PyError (OperatorDb × PyStr) := do
  let checked ← releaseEvidence evidence
  match findAssignment db assignmentId with
  | none => .error (valueError (py "assignment missing"))
  | some row => releaseFound db row assignmentId checked evidence inputs

/-! ### Claims -/

/-- `text.replace('+00:00','Z')` of the text of a UTC value, which has its zone at the
end only. -/
def utcText (time : DateTime) : PyStr :=
  time.isoformatUtc.take (time.isoformatUtc.length - 6) ++ py "Z"

def assignmentLeaseDeadline (stamp : PyStr) (seconds : Int) : Except PyError PyStr := do
  let after := fun (time : DateTime) (offset : Int) => do
    let later ← DateTime.ofMicroseconds (time.microseconds + seconds * 1000000)
    let utc ← later.astimezoneUtc offset
    return utcText utc
  match fromIsoFormat (pyReplace (codePoint 'Z') (py "+00:00") stamp) with
  | none => .error (valueError (py "Invalid isoformat string"))
  | some (.naive time) => after time 0
  | some (.aware time offset) => after time offset

/-- `assignment_claim_eligibility`: the reason where the row is not eligible. -/
def assignmentClaimEligibility (db : OperatorDb) (row : AssignmentRow) : Except PyStr Unit := do
  raiseIf (row.state ≠ .ready) (py "assignment not ready")
  match missionTerminalState db row.missionId with
  | some state => .error (py "mission terminal:" ++ state)
  | none => do
    raiseIf (assignmentAllowed db row.missionId row.dispatchAuthority row.controlEpoch = false)
      (py "operator control fence")
    raiseIf ((driverRow db row.missionId).map DriverRow.generation ≠ some row.leaseGeneration)
      (py "stale assignment generation")

def claimFound (db : OperatorDb) (row : AssignmentRow) (assignmentId : PyStr)
    (expected : Option PyStr) (leaseSeconds : Int) (inputs : CallInputs) :
    Except PyError (OperatorDb × AssignmentRow) := do
  raiseIf (isSet expected = true ∧ expected ≠ some row.materialDroneId)
    (valueError (py "material identity mismatch"))
  match assignmentClaimEligibility db row with
  | .error reason => .error (valueError reason)
  | .ok () => do
    let stamp := inputs.now 0
    let expires ← assignmentLeaseDeadline stamp leaseSeconds
    raiseIf ((db.assignments.countP (isNamed assignmentId .ready)) ≠ 1)
      (valueError (py "assignment claim race"))
    let claim := fun row : AssignmentRow =>
      { row with
        state := .claimed
        claimedAt := some stamp
        leaseExpiresAt := some expires }
    return (updateAssignments db (isNamed assignmentId .ready) claim, claim row)

def claimAssignment (db : OperatorDb) (assignmentId : PyStr) (expected : Option PyStr)
    (leaseSeconds : Int) (inputs : CallInputs) : Except PyError (OperatorDb × AssignmentRow) :=
  match findAssignment db assignmentId with
  | none => .error (valueError (py "assignment missing"))
  | some row => claimFound db row assignmentId expected leaseSeconds inputs

/-! ### Receipts -/

def isRowOf (assignmentId : PyStr) (row : AssignmentRow) : Bool :=
  row.assignmentId = assignmentId

def storeStaleResult (db : OperatorDb) (row : AssignmentRow) (result : Json)
    (resultDigest materialDroneId : PyStr) (leaseGeneration : Int) (reason : PyStr)
    (inputs : CallInputs) : Except PyError (OperatorDb × PyStr) := do
  let staleId := py "stale-result-" ++ inputs.random 0
  let raw ← canon result
  let stamp := inputs.now 0
  let stale : StaleResultRow := ⟨staleId, row.assignmentId, row.missionId, row.phaseId,
    resultDigest, raw, materialDroneId, leaseGeneration, row.controlEpoch,
    ((findControl db row.missionId).map ControlRow.controlEpoch).getD 0, reason, stamp⟩
  let stored := updateAssignments db (isRowOf row.assignmentId) fun row =>
    { row with
      state := .staleResult
      finishedAt := row.finishedAt <|> some stamp }
  return ({ stored with
    staleResults := insertOrIgnore (fun other => other.staleResultId = staleId ||
      (other.assignmentId = row.assignmentId && other.resultDigest = resultDigest &&
        other.reason = reason)) stale db.staleResults }, staleId)

/-- A result that is stored as historical: its reason and the message. -/
structure StaleResult where
  reason : PyStr
  message : PyStr

/-- The checks of a worker's result: it is current, or it is stored as historical. -/
def checkWorkerBinding (db : OperatorDb) (row : AssignmentRow) (materialDroneId : PyStr)
    (leaseGeneration : Int) : Except PyError (Option StaleResult) := do
  raiseIf (row.materialDroneId ≠ materialDroneId) (valueError (py "material identity mismatch"))
  if assignmentAllowed db row.missionId row.dispatchAuthority row.controlEpoch = false then
    return some ⟨py "STALE_CONTROL_EPOCH", py "stale assignment control epoch"⟩
  else if row.leaseGeneration ≠ leaseGeneration ∨
      (driverRow db row.missionId).map DriverRow.generation ≠ some leaseGeneration then do
    raiseIf (row.state ≠ .cancelRequested) (valueError (py "stale assignment generation"))
    return some ⟨py "STALE_DRIVER_GENERATION", py "stale assignment generation"⟩
  else return none

structure ReceiptContent where
  result : Json
  status : PyStr
  effectReceiptDigest : Option PyStr
  authorityEffect : PyStr

def ReceiptContent.isSame (content : ReceiptContent) (resultDigest : PyStr)
    (row : ExecutionReceiptRow) : Bool :=
  row.resultDigest = resultDigest && row.effectReceiptDigest = content.effectReceiptDigest &&
    row.authorityEffect = content.authorityEffect && row.status = content.status

/-- What `_record_receipt` returns. -/
structure RecordedReceipt where
  receiptId : PyStr
  resultDigest : PyStr

/-- The end of `_record_receipt`: the receipt must be the first, and a worker's
assignment claimed. -/
def acceptReceipt (db : OperatorDb) (row : AssignmentRow) (content : ReceiptContent)
    (resultDigest : PyStr) (isWorker : Bool) (inputs : CallInputs) :
    Except PyError (OperatorDb × RecordedReceipt) := do
  let existing := db.executionReceipts.filter fun other => other.assignmentId = row.assignmentId
  raiseIf (existing ≠ [] ∧
      (existing.length = 1 ∧ existing.all (content.isSame resultDigest) = true))
    (valueError (py "assignment receipt duplicate"))
  raiseIf (existing ≠ []) (valueError (py "assignment receipt conflict"))
  raiseIf (isWorker = true ∧ row.state ≠ .claimed) (valueError (py "assignment not claimed"))
  let receiptId := py "receipt-" ++ inputs.random 0
  let receipts ← insertRow (uniqueError (py "mission_execution_receipts"))
    (fun other => other.receiptId = receiptId ||
      (other.assignmentId = row.assignmentId && other.resultDigest = resultDigest))
    ⟨receiptId, row.assignmentId, row.missionId, row.phaseId, resultDigest,
      content.effectReceiptDigest, content.authorityEffect, content.status, inputs.now 0⟩
    db.executionReceipts
  let finished := updateAssignments db (isRowOf row.assignmentId) fun row =>
    { row with
      state := .ofText content.status
      finishedAt := some (inputs.now 0) }
  return ({ finished with executionReceipts := receipts }, ⟨receiptId, resultDigest⟩)

def staleAssignmentResult (message staleId : PyStr) : PyError :=
  ⟨.declared .valueError (py "StaleAssignmentResult"),
    message ++ py "; historical_result=" ++ staleId⟩

def rollingBack {α : Type} (db : OperatorDb) :
    Except PyError (OperatorDb × α) → OperatorDb × Except PyError α
  | .ok (changed, value) => (changed, .ok value)
  | .error error => (db, .error error)

/-- `_record_receipt` of a row that was found.  A historical result is committed before
the exception is raised. -/
def recordFound (db : OperatorDb) (row : AssignmentRow) (content : ReceiptContent)
    (resultDigest : PyStr) (workerBinding : Option (PyStr × Int)) (inputs : CallInputs) :
    OperatorDb × Except PyError RecordedReceipt :=
  match workerBinding with
  | none => rollingBack db (acceptReceipt db row content resultDigest false inputs)
  | some (materialDroneId, leaseGeneration) =>
    match checkWorkerBinding db row materialDroneId leaseGeneration with
    | .error error => (db, .error error)
    | .ok none => rollingBack db (acceptReceipt db row content resultDigest true inputs)
    | .ok (some stale) =>
      match storeStaleResult db row content.result resultDigest materialDroneId
          leaseGeneration stale.reason (inputs.skip 1) with
      | .error error => (db, .error error)
      | .ok (stored, staleId) =>
        (stored, .error (staleAssignmentResult stale.message staleId))

/-- `_record_receipt`. -/
def recordContent (db : OperatorDb) (assignmentId : PyStr) (content : ReceiptContent)
    (workerBinding : Option (PyStr × Int)) (inputs : CallInputs) :
    OperatorDb × Except PyError RecordedReceipt :=
  match digest content.result with
  | .error error => (db, .error error)
  | .ok resultDigest =>
    match findAssignment db assignmentId with
    | none => (db, .error (valueError (py "assignment missing")))
    | some row => recordFound db row content resultDigest workerBinding inputs

/-- The status of a worker's receipt: `PASS` or `FAIL`. -/
def workerStatus : Json → Except PyError PyStr
  | .str text =>
    if text = py "PASS" ∨ text = py "FAIL" then .ok text
    else .error (valueError (py "assignment receipt status/authority"))
  | .arr _ => .error ⟨.typeError, py "unhashable type: 'list'"⟩
  | .obj _ => .error ⟨.typeError, py "unhashable type: 'dict'"⟩
  | _ => .error (valueError (py "assignment receipt status/authority"))

/-- The arguments of `record_receipt` that it checks. -/
structure WorkerReceipt where
  materialDroneId : Json
  leaseGeneration : Json
  status : Json
  authorityEffect : Json

/-- The checks of `record_receipt`: the material drone, the generation and the status. -/
def WorkerReceipt.check (receipt : WorkerReceipt) : Except PyError (PyStr × Int × PyStr) := do
  let materialDroneId ← nonemptyText (py "material identity required") receipt.materialDroneId
  let leaseGeneration ← match receipt.leaseGeneration with
    | .int value =>
      if value < 1 then .error (valueError (py "lease generation required")) else .ok value
    | _ => .error (valueError (py "lease generation required"))
  let status ← workerStatus receipt.status
  raiseIf (receipt.authorityEffect.asText ≠ some (py "NONE"))
    (valueError (py "assignment receipt status/authority"))
  return (materialDroneId, leaseGeneration, status)

def recordReceipt (db : OperatorDb) (assignmentId : PyStr) (result : Json)
    (receipt : WorkerReceipt) (effectReceiptDigest : Option PyStr) (inputs : CallInputs) :
    OperatorDb × Except PyError RecordedReceipt :=
  match receipt.check with
  | .error error => (db, .error error)
  | .ok (materialDroneId, leaseGeneration, status) =>
    recordContent db assignmentId ⟨result, status, effectReceiptDigest, py "NONE"⟩
      (some (materialDroneId, leaseGeneration)) inputs

def recordInternalReceipt (db : OperatorDb) (assignmentId : PyStr) (content : ReceiptContent)
    (inputs : CallInputs) : OperatorDb × Except PyError RecordedReceipt :=
  recordContent db assignmentId content none inputs

end GlobalScheduler

end CyberLion
