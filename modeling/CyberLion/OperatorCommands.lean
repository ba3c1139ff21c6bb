import CyberLion.AtomicProgram
import CyberLion.OperatorApplication

/-!
# Applying operator commands

`apply_command` of `mission_control/operator_control.py` as a program: the checks
before `BEGIN IMMEDIATE` are one look at the database for each statement, and
what stands between `BEGIN IMMEDIATE` and the commit is one transaction, which
leaves the database as it was when it raises.
-/

namespace CyberLion

namespace OperatorControl

open PyLib

/-! ### Results -/

/-- What an action returns: the stored result, the number of claimed assignments
that its fence asked to cancel, and the `state` of the result. -/
structure ActionOutcome where
  result : Json
  cancelRequested : Nat
  state : Option PyStr

def plainOutcome (result : List (PyStr × Json)) : ActionOutcome :=
  ⟨.obj result, 0, none⟩

def flag (value : Bool) : Json :=
  .int (if value then 1 else 0)

def ControlRow.toJson (row : ControlRow) : Json :=
  .obj [(py "mission_id", .str row.missionId), (py "incarnation_id", .str row.incarnationId),
    (py "control_epoch", .int row.controlEpoch), (py "control_owner", .str row.controlOwner),
    (py "pause_latch", flag row.pauseLatch), (py "stop_latch", flag row.stopLatch),
    (py "context_revision", .int row.contextRevision),
    (py "plan_revision", .int row.planRevision),
    (py "last_command_id", OperatorCommand.optional .str row.lastCommandId),
    (py "updated_at", OperatorCommand.optional .str row.updatedAt)]

def DriverFence.toJson (fence : DriverFence) : Json :=
  .obj [(py "previous_generation", .int fence.previousGeneration),
    (py "generation", .int fence.generation), (py "state", .str fence.state)]

def AssignmentFence.toJson (fence : AssignmentFence) : Json :=
  .obj ((fence.reboundReady.map fun count => (py "rebound_ready", Json.int count)).toList ++
    [(py "cancelled_ready", .int fence.cancelledReady),
      (py "cancel_requested", .int fence.cancelRequested)])

/-! ### Context, plan and approvals -/

/-- `isinstance(content, (dict, list, str))`. -/
def revisionContent (message : PyStr) : Json → Except PyError Json
  | .obj fields => .ok (.obj fields)
  | .arr items => .ok (.arr items)
  | .str text => .ok (.str text)
  | _ => .error (valueError message)

def updateControl (db : OperatorDb) (missionId : PyStr) (change : ControlRow → ControlRow) :
    OperatorDb :=
  { db with
    controls := updateWhere (fun row => row.missionId = missionId) change db.controls }

def insertRevision (columns : PyStr) (row : RevisionRow) (rows : List RevisionRow) :
    Except PyError (List RevisionRow) :=
  insertRow (uniqueError columns)
    (fun other => other.missionId = row.missionId && other.revision = row.revision) row rows

def amendContext (db : OperatorDb) (command : OperatorCommand) (state : ControlRow)
    (inputs : CallInputs) : Except PyError (OperatorDb × ActionOutcome) := do
  let content ← revisionContent (py "context content")
    (Json.get (py "content") command.payload)
  let revision := state.contextRevision + 1
  let raw ← canonical content
  let contentDigest ← digest content
  let rows ← insertRevision
    (py "mission_context_revisions.mission_id, mission_context_revisions.revision")
    ⟨command.missionId, revision, command.commandId, raw, contentDigest, inputs.now 0⟩
    db.contextRevisions
  let db := updateControl { db with contextRevisions := rows } command.missionId fun row =>
    { row with
      contextRevision := revision
      lastCommandId := some command.commandId
      updatedAt := some (inputs.now 1) }
  return (db, plainOutcome [(py "context_revision", .int revision),
    (py "content_digest", .str contentDigest)])

def planScopeExtension (payload : List (PyStr × Json)) : Option Json :=
  let keys := [py "effect_ceiling", py "authority_scope", py "capability_grants",
    py "external_effects", py "scope_extension"]
  match Json.get (py "scope_change") payload, Json.get (py "content") payload with
  | .obj (field :: fields), _ => some (.obj (field :: fields))
  | _, .obj content =>
    let found := keys.filterMap fun key =>
      (Json.lookup key content).map fun value => (key, value)
    if found = [] then none else some (.obj found)
  | _, _ => none

def proposePlan (db : OperatorDb) (command : OperatorCommand) (state : ControlRow)
    (inputs : CallInputs) (raw contentDigest : PyStr) (scope : Json) :
    Except PyError (OperatorDb × ActionOutcome) := do
  let scopeJson ← canonical scope
  let waiting := py "AWAITING_SCOPE_ACTIVATION"
  let row : PlanAmendmentRow := ⟨py "plan-amendment-" ++ inputs.random 0, command.missionId,
    command.commandId, raw, contentDigest, scopeJson, waiting, inputs.now 0⟩
  let rows ← insertRow (uniqueError (py "operator_pending_plan_amendments"))
    (fun other => other.proposalId = row.proposalId || other.commandId = row.commandId) row
    db.planAmendments
  return ({ db with planAmendments := rows },
    ⟨.obj [(py "proposal_id", .str row.proposalId), (py "content_digest", .str contentDigest),
      (py "state", .str waiting), (py "requested_scope", scope),
      (py "plan_revision", .int state.planRevision), (py "scope_escalated", .bool false)], 0,
      some waiting⟩)

def amendPlan (db : OperatorDb) (command : OperatorCommand) (state : ControlRow)
    (inputs : CallInputs) : Except PyError (OperatorDb × ActionOutcome) := do
  let content ← revisionContent (py "plan content") (Json.get (py "content") command.payload)
  let raw ← canonical content
  let contentDigest ← digest content
  match planScopeExtension command.payload with
  | some scope => proposePlan db command state inputs raw contentDigest scope
  | none => do
    let revision := state.planRevision + 1
    let rows ← insertRevision
      (py "mission_plan_revisions.mission_id, mission_plan_revisions.revision")
      ⟨command.missionId, revision, command.commandId, raw, contentDigest, inputs.now 0⟩
      db.planRevisions
    let db := updateControl { db with planRevisions := rows } command.missionId fun row =>
      { row with
        planRevision := revision
        lastCommandId := some command.commandId
        updatedAt := some (inputs.now 1) }
    return (db, plainOutcome [(py "plan_revision", .int revision),
      (py "content_digest", .str contentDigest), (py "scope_escalated", .bool false)])

def nonemptyText (message : PyStr) : Json → Except PyError PyStr
  | .str text => if text = [] then .error (valueError message) else .ok text
  | _ => .error (valueError message)

def approveProposal (db : OperatorDb) (command : OperatorCommand) (inputs : CallInputs) :
    Except PyError (OperatorDb × ActionOutcome) := do
  let message := py "proposal approval"
  let proposalId ← nonemptyText message (Json.get (py "proposal_id") command.payload)
  let proposalDigest ← nonemptyText message (Json.get (py "proposal_digest") command.payload)
  raiseIf (proposalDigest.length ≠ 64) (valueError message)
  let row : ApprovalRow :=
    ⟨command.missionId, proposalId, proposalDigest, command.commandId, inputs.now 0⟩
  let rows ← insertRow (uniqueError (py "operator_approvals"))
    (fun other => other.commandId = row.commandId ||
      (other.missionId = row.missionId && other.proposalId = row.proposalId &&
        other.proposalDigest = row.proposalDigest)) row db.approvals
  return ({ db with approvals := rows }, plainOutcome [(py "proposal_id", .str proposalId),
    (py "proposal_digest", .str proposalDigest), (py "approved", .bool true)])

/-! ### Control -/

def revokedCapability : Json → Except PyError PyStr
  | .str text =>
    if isBlank text ∨ 180 < text.length then .error (valueError (py "capability"))
    else .ok (strip text)
  | _ => .error (valueError (py "capability"))

def revokeCapability (db : OperatorDb) (command : OperatorCommand) (inputs : CallInputs) :
    Except PyError (OperatorDb × ActionOutcome) := do
  let capability ← revokedCapability (Json.get (py "capability") command.payload)
  let (db, state) ← bumpControl db command.missionId inputs ⟨none, none, none⟩ command.commandId
  let row : CapabilityRevocationRow := ⟨command.missionId, capability, command.commandId,
    state.controlEpoch, inputs.now 2, none⟩
  let rows ← insertRow (uniqueError (py "operator_capability_revocations"))
    (fun other => other.missionId = row.missionId && other.capability = row.capability &&
      other.commandId = row.commandId) row db.capabilityRevocations
  return ({ db with capabilityRevocations := rows },
    plainOutcome [(py "capability", .str capability), (py "revoked", .bool true),
      (py "control", state.toJson)])

def scopeOutcome (state : ControlRow) (driver : Option DriverFence) (fence : AssignmentFence) :
    ActionOutcome :=
  ⟨.obj [(py "control", state.toJson),
    (py "driver_fence", OperatorCommand.optional DriverFence.toJson driver),
    (py "assignments", fence.toJson)], fence.cancelRequested, none⟩

/-- `PAUSE_SCOPE`, `STOP_SCOPE` and `TAKE_CONTROL`: the control row changes, the
driver gets a new generation and the assignments are fenced. -/
def fenceScope (db : OperatorDb) (command : OperatorCommand) (inputs : CallInputs)
    (change : ControlChange) (driverState : Option PyStr) (reason : PyStr) :
    Except PyError (OperatorDb × ActionOutcome) := do
  let (db, state) ← bumpControl db command.missionId inputs change command.commandId
  let (db, driver) ← driverFence db command.missionId (inputs.skip 2) driverState reason
  let (db, fence) := fenceAssignments db command.missionId (inputs.now 3)
  return (db, scopeOutcome state driver fence)

def pauseScope (db : OperatorDb) (command : OperatorCommand) (inputs : CallInputs) :
    Except PyError (OperatorDb × ActionOutcome) :=
  fenceScope db command inputs ⟨none, some true, none⟩ (some (py "PAUSED"))
    (py "OPERATOR_PAUSE")

def stopScope (db : OperatorDb) (command : OperatorCommand) (inputs : CallInputs) :
    Except PyError (OperatorDb × ActionOutcome) :=
  fenceScope db command inputs ⟨none, some true, some true⟩ (some (py "STOPPED"))
    (py "OPERATOR_STOP")

def takeControl (db : OperatorDb) (command : OperatorCommand) (principalId : PyStr)
    (inputs : CallInputs) : Except PyError (OperatorDb × ActionOutcome) :=
  fenceScope db command inputs ⟨some principalId, none, none⟩ none (py "OPERATOR_TAKE_CONTROL")

/-- `RELEASE_CONTROL`: the assignments of the principal go over to the autonomous
owner. -/
def releaseControl (db : OperatorDb) (command : OperatorCommand) (principalId : PyStr)
    (inputs : CallInputs) : Except PyError (OperatorDb × ActionOutcome) := do
  let (db, state) ← bumpControl db command.missionId inputs ⟨some autonomousOwner, none, none⟩
    command.commandId
  let (db, driver) ← driverFence db command.missionId (inputs.skip 2) none
    (py "OPERATOR_RELEASE_CONTROL")
  let generation := (driver.map DriverFence.generation).getD 1
  let (db, fence) ← releaseAssignmentHandoff db command.missionId (inputs.now 3) principalId
    (if generation = 0 then 1 else generation) state.controlEpoch
  return (db, scopeOutcome state driver fence)

/-- The latches that `RESUME_SCOPE` clears. -/
def resumeChange (latch : PyStr) : Except PyError ControlChange :=
  if latch = py "PAUSE" then .ok ⟨none, some false, none⟩
  else if latch = py "STOP" then .ok ⟨none, none, some false⟩
  else if latch = py "ALL" then .ok ⟨none, some false, some false⟩
  else .error (valueError (py "resume latch"))

def resumeScope (db : OperatorDb) (command : OperatorCommand) (inputs : CallInputs) :
    Except PyError (OperatorDb × ActionOutcome) := do
  let change ← resumeChange (pyUpper
    (Json.pyOr (Json.get (py "latch") command.payload) (.str (py "ALL"))).pyStr)
  let (db, state) ← bumpControl db command.missionId inputs change command.commandId
  return (db, plainOutcome [(py "control", state.toJson),
    (py "driver_resume_required", .bool (state.controlOwner = autonomousOwner &&
      !state.pauseLatch && !state.stopLatch))])

/-! ### Assignments -/

def missionAssignment (db : OperatorDb) (assignmentId missionId : PyStr) :
    Option AssignmentRow :=
  db.assignments.find? fun row =>
    row.assignmentId = assignmentId && row.missionId = missionId

def cancelRow (now : PyStr) (row : AssignmentRow) : AssignmentRow :=
  { row with state := .cancelled, finishedAt := some now }

/-- `CANCEL_ASSIGNMENT` of a row that was found. -/
def cancelFound (db : OperatorDb) (row : AssignmentRow) (now : PyStr) :
    Except PyError (OperatorDb × ActionOutcome) :=
  let selected := fun other : AssignmentRow => other.assignmentId = row.assignmentId
  let outcome := fun state => (⟨.obj [(py "assignment_id", .str row.assignmentId),
    (py "state", .str state)], 0, some state⟩ : ActionOutcome)
  match row.state with
  | .ready => .ok (updateAssignments db selected (cancelRow now), outcome (py "CANCELLED"))
  | .claimed => .ok (updateAssignments db selected fun other =>
    { other with state := .cancelRequested }, outcome (py "CANCEL_REQUESTED"))
  | _ => .error (valueError (py "assignment not cancellable"))

def cancelAssignment (db : OperatorDb) (command : OperatorCommand) (inputs : CallInputs) :
    Except PyError (OperatorDb × ActionOutcome) := do
  let assignmentId ← nonemptyText (py "assignment_id")
    (Json.get (py "assignment_id") command.payload)
  match missionAssignment db assignmentId command.missionId with
  | none => .error (valueError (py "assignment not found"))
  | some row => cancelFound db row (inputs.now 0)

/-- The states that `REASSIGN` accepts. -/
def AssignmentState.isReassignable : AssignmentState → Bool
  | ready | claimed | cancelRequested | cancelled | staleResult => true
  | _ => false

/-- The result of `REASSIGN`, but for the fields that depend on the branch. -/
def reassignOutcome (old : AssignmentRow) (current : ControlRow) (fence : Option DriverFence)
    (generation : Int) (state : PyStr) (fields : List (PyStr × Json)) : ActionOutcome :=
  ⟨.obj ([(py "previous_assignment_id", .str old.assignmentId), (py "state", .str state),
      (py "control_epoch", .int current.controlEpoch),
      (py "driver_fence", OperatorCommand.optional DriverFence.toJson fence),
      (py "lease_generation", .int generation)] ++ fields), 0, some state⟩

/-- `REASSIGN` of a claimed assignment waits for its checkpoint. -/
def awaitCheckpoint (db : OperatorDb) (old : AssignmentRow) (material : PyStr)
    (current : ControlRow) (fence : Option DriverFence) (generation : Int) :
    OperatorDb × ActionOutcome :=
  (updateAssignments db (fun row => row.assignmentId = old.assignmentId) fun row =>
      { row with state := .cancelRequested },
    reassignOutcome old current fence generation (py "WAITING_CHECKPOINT")
      [(py "requested_material_drone_id", .str material)])

/-- A new row of `mission_execution_assignments`. -/
def insertAssignment (db : OperatorDb) (row : AssignmentRow) : Except PyError OperatorDb := do
  let rows ← insertRow slotError
    (fun other => other.assignmentId = row.assignmentId || other.slot = row.slot) row
    db.assignments
  return { db with assignments := rows }

def AssignmentRow.reassigned (old : AssignmentRow) (assignmentId material : PyStr)
    (generation : Int) (current : ControlRow) (principalId now : PyStr) : AssignmentRow where
  assignmentId := assignmentId
  missionId := old.missionId
  phaseId := old.phaseId
  logicalDroneId := old.logicalDroneId
  materialDroneId := material
  inputDigest := old.inputDigest
  input := old.input
  state := .ready
  leaseGeneration := generation
  controlEpoch := current.controlEpoch
  contextRevision := current.contextRevision
  planRevision := current.planRevision
  dispatchAuthority := principalId
  createdAt := now
  claimedAt := none
  leaseExpiresAt := none
  finishedAt := none

/-- `REASSIGN` of an assignment that no worker has: it is cancelled, the other ready
ones follow the driver, and a copy is ready for the new material drone. -/
def replaceAssignment (db : OperatorDb) (old : AssignmentRow) (material principalId : PyStr)
    (current : ControlRow) (fence : Option DriverFence) (generation : Int)
    (inputs : CallInputs) : Except PyError (OperatorDb × ActionOutcome) := do
  let cancelled := updateAssignments db (fun row => row.assignmentId = old.assignmentId)
    fun row =>
      { row with
        state := .cancelled
        finishedAt := row.finishedAt <|> some (inputs.now 0) }
  let moved ← moveAssignments cancelled
    (fun row => row.isIn old.missionId .ready && row.assignmentId ≠ old.assignmentId)
    fun row => { row with leaseGeneration := generation }
  let newId := py "assignment-" ++ inputs.random 0
  let db ← insertAssignment moved
    (old.reassigned newId material generation current principalId (inputs.now 1))
  return (db, reassignOutcome old current fence generation (py "READY")
    [(py "assignment_id", .str newId), (py "material_drone_id", .str material)])

/-- `REASSIGN` of a row that was found. -/
def reassignFound (db : OperatorDb) (command : OperatorCommand) (old : AssignmentRow)
    (material principalId : PyStr) (inputs : CallInputs) :
    Except PyError (OperatorDb × ActionOutcome) := do
  raiseIf (old.state.isReassignable = false) (valueError (py "assignment not reassignable"))
  let (db, fence) ← driverFence db command.missionId inputs none (py "OPERATOR_REASSIGN")
  let generation := ((driverRow db command.missionId).map DriverRow.generation).getD
    (old.leaseGeneration + 1)
  let (db, current) ← ensureControlState db command.missionId (inputs.skip 2)
  if old.state = .claimed ∨ old.state = .cancelRequested then
    .ok (awaitCheckpoint db old material current fence generation)
  else replaceAssignment db old material principalId current fence generation (inputs.skip 4)

def reassign (db : OperatorDb) (command : OperatorCommand) (principalId : PyStr)
    (inputs : CallInputs) : Except PyError (OperatorDb × ActionOutcome) := do
  let assignmentId ← nonemptyText (py "reassign")
    (Json.get (py "assignment_id") command.payload)
  let material ← nonemptyText (py "reassign")
    (Json.get (py "material_drone_id") command.payload)
  match missionAssignment db assignmentId command.missionId with
  | none => .error (valueError (py "assignment not reassignable"))
  | some old => reassignFound db command old material principalId inputs

/-! ### The transaction -/

/-- `MESSAGE` and `ANNOTATE`. -/
def sendMessage (db : OperatorDb) (command : OperatorCommand) (state : ControlRow)
    (inputs : CallInputs) (participantId : PyStr) :
    Except PyError (OperatorDb × ActionOutcome) := do
  let (db, result) ← storeMessage db command state inputs participantId
  return (db, ⟨result, 0, none⟩)

/-- The branch of `apply_command` for the action of a command. -/
def applyAction (db : OperatorDb) (command : OperatorCommand) (state : ControlRow)
    (principalId participantId : PyStr) (inputs : CallInputs) :
    Except PyError (OperatorDb × ActionOutcome) :=
  match command.action with
  | .requestStatus => .ok (db, plainOutcome [(py "control", state.toJson),
      (py "mission_id", .str command.missionId)])
  | .message => sendMessage db command state inputs participantId
  | .annotate => sendMessage db command state inputs participantId
  | .amendContext => amendContext db command state inputs
  | .amendPlan => amendPlan db command state inputs
  | .approveProposal => approveProposal db command inputs
  | .revokeCapability => revokeCapability db command inputs
  | .pauseScope => pauseScope db command inputs
  | .stopScope => stopScope db command inputs
  | .takeControl => takeControl db command principalId inputs
  | .releaseControl => releaseControl db command principalId inputs
  | .resumeScope => resumeScope db command inputs
  | .cancelAssignment => cancelAssignment db command inputs
  | .reassign => reassign db command principalId inputs

/-- What a command has come to: `execution_state`, `observation_state` and
`completed_at`. -/
structure Completion where
  executionState : PyStr
  observationState : PyStr
  completedAt : Option PyStr

def completionOf (action : Action) (outcome : ActionOutcome) (now : PyStr) : Completion :=
  if (action = .pauseScope ∨ action = .stopScope ∨ action = .takeControl) ∧
      0 < outcome.cancelRequested then
    ⟨py "CONTAINMENT_PENDING", py "PARTIAL", none⟩
  else if action = .cancelAssignment ∧ outcome.state = some (py "CANCEL_REQUESTED") then
    ⟨py "CONTAINMENT_PENDING", py "PARTIAL", none⟩
  else if action = .reassign ∧ outcome.state = some (py "WAITING_CHECKPOINT") then
    ⟨py "WAITING_CHECKPOINT", py "PARTIAL", none⟩
  else if action = .amendPlan ∧ outcome.state = some (py "AWAITING_SCOPE_ACTIVATION") then
    ⟨py "AWAITING_SCOPE_ACTIVATION", py "PENDING_AUTHORITY", none⟩
  else
    ⟨py "APPLIED", if action.isControl then py "CONTROL_STATE_OBSERVED" else py "PERSISTED",
      some now⟩

def CommandRow.completed (row : CommandRow)
    (completion : Completion) (resultJson : PyStr) : CommandRow :=
  { row with
    executionState := completion.executionState
    observationState := completion.observationState
    completedAt := completion.completedAt
    resultJson := some resultJson }

structure Admission where
  command : OperatorCommand
  principalId : PyStr
  participantId : PyStr
  grantId : PyStr

namespace Admission

variable (admission : Admission)

def priority : Int :=
  if admission.principalId = primaryOperator then 1000 else 900

def row (commandDigest payloadJson : PyStr) (controlEpoch : Int) (stamp : PyStr) : CommandRow where
  commandId := admission.command.commandId
  commandDigest := commandDigest
  missionId := admission.command.missionId
  action := admission.command.action
  target := admission.command.target
  payloadJson := payloadJson
  principalId := admission.principalId
  participantId := admission.participantId
  grantId := admission.grantId
  effectivePriority := admission.priority
  admittedControlEpoch := controlEpoch
  deliveryState := py "PERSISTED"
  admissionState := py "ACCEPTED"
  executionState := py "APPLYING"
  observationState := py "PENDING"
  createdAt := stamp
  admittedAt := stamp
  completedAt := none
  resultJson := none

/-- The start of the transaction: the control row, the expected revision and the
row of the command. -/
def start (db : OperatorDb) (inputs : CallInputs) :
    Except PyError (OperatorDb × ControlRow) := do
  let (db, state) ← ensureControlState db admission.command.missionId inputs
  raiseIf (∃ expected ∈ admission.command.expectedRevision, expected ≠ state.controlEpoch)
    (valueError (py "expected control revision mismatch"))
  let commandDigest ← admission.command.payloadDigest
  let payloadJson ← canonical (.obj admission.command.payload)
  let rows ← insertRow (uniqueError (py "operator_commands.command_id"))
    (fun other => other.commandId = admission.command.commandId)
    (admission.row commandDigest payloadJson state.controlEpoch (inputs.now 1)) db.commands
  return ({ db with commands := rows }, state)

def eventPayload (final : ControlRow) : Json :=
  .obj [(py "command_id", .str admission.command.commandId),
    (py "action", .str admission.command.action.text),
    (py "target", .str admission.command.target),
    (py "control_epoch", .int final.controlEpoch),
    (py "effect_class", .str admission.command.action.effect),
    (py "authority_effect", .str (if admission.command.action.isControl then
      py "OPERATOR_SCOPED_CONTROL" else py "NONE"))]

def receiptFields (commandDigest : PyStr) (final : ControlRow) (eventId : Nat)
    (completion : Completion) (createdAt : PyStr) : List (PyStr × Json) :=
  [(py "schema", .str (py "lion.operator-command-receipt/v1")),
    (py "command_id", .str admission.command.commandId),
    (py "command_digest", .str commandDigest),
    (py "mission_id", .str admission.command.missionId),
    (py "action", .str admission.command.action.text),
    (py "principal_id", .str admission.principalId),
    (py "participant_id", .str admission.participantId),
    (py "grant_id", .str admission.grantId),
    (py "effective_priority", .int admission.priority),
    (py "control_epoch", .int final.controlEpoch),
    (py "context_revision", .int final.contextRevision),
    (py "plan_revision", .int final.planRevision), (py "event_id", .int eventId),
    (py "delivery_state", .str (py "PERSISTED")), (py "admission_state", .str (py "ACCEPTED")),
    (py "execution_state", .str completion.executionState),
    (py "observation_state", .str completion.observationState),
    (py "created_at", .str createdAt)]

/-- The end of the transaction: the completed row, the event and the receipt. -/
def complete (db : OperatorDb) (outcome : ActionOutcome) (inputs : CallInputs) :
    Except PyError (OperatorDb × List (PyStr × Json)) := do
  let (db, final) ← ensureControlState db admission.command.missionId (inputs.skip 2)
  let completion := completionOf admission.command.action outcome (inputs.now 3)
  let resultJson ← canonical outcome.result
  let db := { db with
    commands := updateWhere (fun row => row.commandId = admission.command.commandId)
      (fun row => row.completed completion resultJson) db.commands }
  let (db, eventId) ← event db admission.command.missionId (py "OPERATOR_COMMAND_APPLIED")
    (admission.eventPayload final) (inputs.now 4) (some admission.command.commandId)
  let commandDigest ← admission.command.payloadDigest
  let fields := admission.receiptFields commandDigest final eventId completion (inputs.now 5)
  let receiptDigest ← commandReceiptDigest fields
  let receipt := fields ++ [(py "receipt_digest", Json.str receiptDigest)]
  let receiptJson ← canonical (.obj receipt)
  let rows ← insertRow (uniqueError (py "operator_command_receipts"))
    (fun other => other.commandId = admission.command.commandId ||
      other.receiptDigest = receiptDigest)
    ⟨admission.command.commandId, receiptDigest, receiptJson, inputs.now 5⟩ db.receipts
  return ({ db with receipts := rows }, receipt)

/-- What stands between `BEGIN IMMEDIATE` and the commit. -/
def commit (db : OperatorDb) (inputs : CallInputs) :
    Except PyError (OperatorDb × List (PyStr × Json)) := do
  let (db, state) ← admission.start db inputs
  let (db, outcome) ← applyAction db admission.command state admission.principalId
    admission.participantId (inputs.skip 6)
  admission.complete db outcome inputs

def transaction (inputs : CallInputs) (db : OperatorDb) :
    OperatorDb × Except PyError (List (PyStr × Json)) :=
  match admission.commit db inputs with
  | .ok (changed, receipt) => (changed, .ok receipt)
  | .error error => (db, .error error)

end Admission

/-! ### The call -/

def findCommand (db : OperatorDb) (commandId : PyStr) : Option CommandRow :=
  db.commands.find? fun row => row.commandId = commandId

/-- What `_command_result` returns. -/
structure CommandView where
  row : CommandRow
  payload : Json
  result : Json
  receiptDigest : Option PyStr

/-- `json.loads(text)`, or a value where that raises. -/
def loadsOr (fallback : Json) (text : PyStr) : Json :=
  match Json.loads Json.plainHooks text with
  | .ok value => value
  | .error _ => fallback

def CommandRow.view (row : CommandRow) (receiptDigest : Option PyStr) : CommandView :=
  ⟨row, loadsOr (.obj []) row.payloadJson,
    if isSet row.resultJson then loadsOr .null (row.resultJson.getD []) else .null,
    receiptDigest⟩

def requireCommand (db : OperatorDb) (commandId : PyStr) : Except PyError CommandRow :=
  match findCommand db commandId with
  | some row => .ok row
  | none => .error (valueError (py "operator command missing"))

def commandResult (commandId : PyStr) : PyProg OperatorDb CommandView := do
  let row ← PyProg.read fun db => requireCommand db commandId
  let receiptDigest ← PyProg.read fun db =>
    .ok ((db.receipts.find? fun receipt => receipt.commandId = commandId).map
      CommandReceiptRow.receiptDigest)
  return row.view receiptDigest

/-- What `apply_command` returns. -/
structure CommandResult where
  view : CommandView
  receipt : Option (List (PyStr × Json))
  idempotent : Bool

def Action.isMissionOnly : Action → Bool
  | pauseScope | stopScope | takeControl | releaseControl | resumeScope => true
  | _ => false

def Action.needsRevision : Action → Bool
  | resumeScope | releaseControl | amendPlan | reassign | approveProposal => true
  | _ => false

def checkScope (command : OperatorCommand) : Except PyError Unit := do
  raiseIf (command.action.isMissionOnly = true ∧
      command.target ≠ py "mission:" ++ command.missionId)
    (valueError (py "mission control action requires mission scope target"))
  raiseIf (command.action.needsRevision = true ∧ command.expectedRevision = none)
    (valueError (py "expected control revision required"))

/-- A mission in a terminal state takes only `REQUEST_STATUS` and `ANNOTATE`. -/
def checkTerminal (db : OperatorDb) (command : OperatorCommand) : Except PyError Unit :=
  match missionTerminalState db command.missionId with
  | none => .ok ()
  | some state =>
    raiseIf (command.action ≠ .requestStatus ∧ command.action ≠ .annotate)
      (valueError (py "mission terminal state:" ++ state))

def repeatCommand (command : OperatorCommand) (existing : CommandRow) :
    PyProg OperatorDb CommandResult := do
  let commandDigest ← PyProg.lift command.payloadDigest
  PyProg.lift (raiseIf (existing.commandDigest ≠ commandDigest)
    (valueError (py "command_id payload conflict")))
  let view ← commandResult command.commandId
  return ⟨view, none, true⟩

def acceptCommand (admission : Admission) (inputs : CallInputs) :
    PyProg OperatorDb CommandResult := do
  PyProg.read fun db => raiseIf (missionExists db admission.command.missionId = false)
    (valueError (py "mission not found"))
  PyProg.read fun db => checkTerminal db admission.command
  let receipt ← PyProg.transact (admission.transaction inputs)
  let view ← commandResult admission.command.commandId
  return ⟨view, some receipt, false⟩

def continueCommand (admission : Admission) (inputs : CallInputs) :
    Option CommandRow → PyProg OperatorDb CommandResult
  | some existing => repeatCommand admission.command existing
  | none => acceptCommand admission inputs

/-- `apply_command` after the checks that need no database. -/
def admitCommand (command : OperatorCommand) (principalId : PyStr) (inputs : CallInputs) :
    PyProg OperatorDb CommandResult := do
  PyProg.read fun db => requireActive db principalId
  let grant ← PyProg.read fun db =>
    grantFor db principalId command.missionId command.action (inputs.now 0)
  let participant ← PyProg.read fun db => participantForPrincipal db principalId
  let existing ← PyProg.read fun db => .ok (findCommand db command.commandId)
  continueCommand ⟨command, principalId, participant.participantId, grant.grantId⟩
    (inputs.skip 1) existing

def applyCommand (value : Json) (principalId : PyStr) (inputs : CallInputs) :
    PyProg OperatorDb CommandResult := do
  let command ← PyProg.lift (OperatorCommand.fromDict value)
  PyProg.lift (checkScope command)
  admitCommand command principalId inputs

end OperatorControl

end CyberLion
