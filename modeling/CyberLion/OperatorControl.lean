import CyberLion.OperatorTables

/-!
# The control state of a mission

The control functions of `mission_control/operator_control.py`: grants, the
control row with its epoch, owner and latches, the fence of the driver and the
fence of the assignments.  A function that writes returns the new database.
-/

namespace CyberLion

namespace OperatorControl

open PyLib

def autonomousOwner : PyStr := py "AUTONOMOUS"

/-! ### Missions -/

def missionExists (db : OperatorDb) (missionId : PyStr) : Bool :=
  db.missions.any fun row => row.missionId = missionId

/-- Membership in `TERMINAL_MISSION_STATES`, or a `RECORDED_` state. -/
def isTerminalMissionState (state : PyStr) : Bool :=
  [py "COMPLETE", py "COMPLETED", py "SUPERSEDED", py "CANCELLED"].contains state ||
    (py "RECORDED_").isPrefixOf state

/-- The terminal state that a row of `missions` shows. -/
def MissionRow.terminalState (row : MissionRow) : Option PyStr :=
  let state := pyUpper (if row.state = [] then py "UNKNOWN" else row.state)
  if isTerminalMissionState state then some state else none

def missionTerminalState (db : OperatorDb) (missionId : PyStr) : Option PyStr :=
  (db.missions.find? fun row => row.missionId = missionId).bind MissionRow.terminalState

/-! ### Participants and grants -/

def participantForPrincipal (db : OperatorDb) (principalId : PyStr) :
    Except PyError ParticipantRow :=
  match db.participants.find? fun row =>
      row.principalId = principalId && row.state = py "ACTIVE" with
  | some row => .ok row
  | none => .error (valueError (py "operator principal unavailable"))

/-- A value that `set` accepts as an element. -/
def isHashable : Json → Bool
  | .arr _ => false
  | .obj _ => false
  | _ => true

/-- `set(json.loads(actions_json))`, as far as it holds texts; empty where that raises. -/
def GrantRow.actions (row : GrantRow) : List PyStr :=
  match Json.loads Json.plainHooks row.actionsJson with
  | .ok (.arr items) => if items.all isHashable then items.filterMap Json.asText else []
  | .ok (.str text) => text.map fun c => [c]
  | .ok (.obj fields) => fields.map Prod.fst
  | _ => []

def GrantRow.covers (row : GrantRow) (missionId : PyStr) (action : Action) : Bool :=
  (row.missionScope = py "*" || row.missionScope = missionId) &&
    row.actions.contains action.text

def GrantRow.isActive (row : GrantRow) (principalId now : PyStr) : Bool :=
  row.principalId = principalId && row.revokedAt = none &&
    match row.expiresAt with
    | none => true
    | some expires => now < expires

/-- The first statement of `_grant_for`. -/
def requireActive (db : OperatorDb) (principalId : PyStr) : Except PyError Unit :=
  raiseIf ((db.participants.any fun row =>
      row.principalId = principalId && row.state = py "ACTIVE") = false)
    (valueError (py "operator principal unavailable"))

/-- The second statement of `_grant_for`: the newest active grant that covers the
mission and the action. -/
def grantFor (db : OperatorDb) (principalId missionId : PyStr) (action : Action) (now : PyStr) :
    Except PyError GrantRow :=
  let newestFirst := (db.grants.filter fun row => row.isActive principalId now).insertionSort
    fun first second => second.issuedAt ≤ first.issuedAt
  match newestFirst.find? fun row => row.covers missionId action with
  | some row => .ok row
  | none => .error (valueError (py "operator action not granted"))

def revokeActiveGrants (db : OperatorDb) (principalId : PyStr) (missionScope : Option PyStr)
    (now : PyStr) : OperatorDb :=
  { db with
    grants := updateWhere
      (fun row => row.principalId = principalId && row.revokedAt = none &&
        (missionScope = none || missionScope = some row.missionScope))
      (fun row => { row with revokedAt := some now }) db.grants }

/-! ### The control row -/

def findControl (db : OperatorDb) (missionId : PyStr) : Option ControlRow :=
  db.controls.find? fun row => row.missionId = missionId

/-- The row that `ensure_control_state` inserts. -/
def initialControl (missionId : PyStr) (inputs : CallInputs) : ControlRow :=
  ⟨missionId, py "incarnation-" ++ inputs.random 0, 1, autonomousOwner, false, false, 0, 0, none,
    some (inputs.now 0)⟩

def ensureControlState (db : OperatorDb) (missionId : PyStr) (inputs : CallInputs) :
    Except PyError (OperatorDb × ControlRow) := do
  raiseIf (missionExists db missionId = false) (valueError (py "mission not found"))
  match findControl db missionId with
  | some row => .ok (db, row)
  | none =>
    let row := initialControl missionId inputs
    .ok ({ db with controls := db.controls ++ [row] }, row)

def legacyDefaultState (missionId : PyStr) : ControlRow :=
  ⟨missionId, py "LEGACY_UNMIGRATED", 0, autonomousOwner, false, false, 0, 0, none, none⟩

/-- `control_state` with a clock: the row, a new one, or the legacy default of an
unknown mission. -/
def controlState (db : OperatorDb) (missionId : PyStr) (inputs : CallInputs) :
    OperatorDb × ControlRow :=
  match findControl db missionId with
  | some row => (db, row)
  | none =>
    if missionExists db missionId then
      let row := initialControl missionId inputs
      ({ db with controls := db.controls ++ [row] }, row)
    else (db, legacyDefaultState missionId)

/-- What `_bump_control` sets. -/
structure ControlChange where
  owner : Option PyStr
  pause : Option Bool
  stop : Option Bool

/-- The row after `_bump_control`. -/
def ControlRow.bump (row : ControlRow) (change : ControlChange) (commandId now : PyStr) :
    ControlRow :=
  { row with
    controlEpoch := row.controlEpoch + 1
    controlOwner := change.owner.getD row.controlOwner
    pauseLatch := change.pause.getD row.pauseLatch
    stopLatch := change.stop.getD row.stopLatch
    lastCommandId := if commandId = [] then row.lastCommandId else some commandId
    updatedAt := some now }

def bumpControl (db : OperatorDb) (missionId : PyStr) (inputs : CallInputs)
    (change : ControlChange) (commandId : PyStr) : Except PyError (OperatorDb × ControlRow) := do
  let (db, state) ← ensureControlState db missionId inputs
  let db := { db with
    controls := updateWhere (fun row => row.missionId = missionId)
      (fun row => row.bump change commandId (inputs.now 1)) db.controls }
  return (db, state.bump change commandId (inputs.now 1))

/-! ### Events -/

def nextEventId (db : OperatorDb) : Nat :=
  db.events.foldl (fun greatest row => max greatest row.eventId) 0 + 1

def event (db : OperatorDb) (missionId eventType : PyStr) (payload : Json) (now : PyStr)
    (commandId : Option PyStr) : Except PyError (OperatorDb × Nat) := do
  let raw ← canonical payload
  let payloadDigest ← digest payload
  let row : EventRow :=
    ⟨nextEventId db, missionId, commandId, eventType, raw, payloadDigest, now⟩
  return ({ db with events := db.events ++ [row] }, row.eventId)

/-! ### The driver -/

def driverRow (db : OperatorDb) (missionId : PyStr) : Option DriverRow :=
  db.drivers.find? fun row => row.missionId = missionId

/-- What `_driver_fence` returns for a mission with a driver. -/
structure DriverFence where
  previousGeneration : Int
  generation : Int
  state : PyStr

def DriverRow.fenced (row : DriverRow) (state : PyStr) (reason token now digest : PyStr) :
    DriverRow :=
  { row with
    generation := row.generation + 1
    state := state
    leaseToken := token
    leaseOwner := none
    leaseExpiresAt := none
    currentAttemptId := none
    waitingReason := some reason
    blockingGate := some (py "OPERATOR_CONTROL")
    nextAction := some (py "OPERATOR_DECISION_REQUIRED")
    checkpointDigest := some digest
    updatedAt := now }

/-- `state or old.get("state") or "BOOTSTRAP_PAUSED"`. -/
def DriverRow.stateAfter (row : DriverRow) (state : Option PyStr) : PyStr :=
  match state with
  | some state => state
  | none => if row.state = [] then py "BOOTSTRAP_PAUSED" else row.state

def fenceDriver (db : OperatorDb) (old : DriverRow) (inputs : CallInputs) (state : Option PyStr)
    (reason : PyStr) : Except PyError (OperatorDb × DriverFence) := do
  let generation := old.generation + 1
  let newState := old.stateAfter state
  let cursor := Json.obj [(py "state", .str newState), (py "event", .str (py "OPERATOR_FENCE")),
    (py "reason", .str reason), (py "previous_generation", .int old.generation),
    (py "generation", .int generation),
    (py "current_phase", OperatorCommand.optional .str old.currentPhase)]
  let raw ← canonical cursor
  let cursorDigest ← digest cursor
  let row : CheckpointRow := ⟨py "checkpoint-" ++ inputs.random 1, old.missionId, generation,
    old.currentPhase, old.currentAttemptId, newState, raw, cursorDigest, inputs.now 0⟩
  let checkpoints ← insertRow (uniqueError (py "mission_execution_checkpoints.checkpoint_id"))
    (fun other => other.checkpointId = row.checkpointId) row db.checkpoints
  let drivers := updateWhere (fun row => row.missionId = old.missionId)
    (fun driver => driver.fenced newState reason (inputs.random 0) (inputs.now 0) cursorDigest)
    db.drivers
  return ({ db with checkpoints := checkpoints, drivers := drivers },
    ⟨old.generation, generation, newState⟩)

def driverFence (db : OperatorDb) (missionId : PyStr) (inputs : CallInputs)
    (state : Option PyStr) (reason : PyStr) : Except PyError (OperatorDb × Option DriverFence) :=
  match driverRow db missionId with
  | none => .ok (db, none)
  | some old => do
    let (db, fence) ← fenceDriver db old inputs state reason
    return (db, some fence)

/-! ### Assignments -/

structure AssignmentFence where
  reboundReady : Option Nat
  cancelledReady : Nat
  cancelRequested : Nat

/-- The rows of `mission_execution_assignments` after an update. -/
def updateAssignments (db : OperatorDb) (selected : AssignmentRow → Bool)
    (change : AssignmentRow → AssignmentRow) : OperatorDb :=
  { db with assignments := updateWhere selected change db.assignments }

/-- The columns of `UNIQUE(mission_id, phase_id, logical_drone_id, lease_generation)`. -/
def AssignmentRow.slot (row : AssignmentRow) : PyStr × PyStr × PyStr × Int :=
  (row.missionId, row.phaseId, row.logicalDroneId, row.leaseGeneration)

def slotError : PyError :=
  uniqueError (py "mission_execution_assignments.mission_id, " ++
    py "mission_execution_assignments.phase_id, " ++
    py "mission_execution_assignments.logical_drone_id, " ++
    py "mission_execution_assignments.lease_generation")

def moveAssignments (db : OperatorDb) (selected : AssignmentRow → Bool)
    (change : AssignmentRow → AssignmentRow) : Except PyError OperatorDb := do
  let moved := updateAssignments db selected change
  raiseIf (¬ (moved.assignments.map AssignmentRow.slot).Nodup) slotError
  return moved

def AssignmentRow.isIn (row : AssignmentRow) (missionId : PyStr) (state : AssignmentState) :
    Bool :=
  row.missionId = missionId && row.state = state

/-- `UPDATE ... SET state='CANCEL_REQUESTED' ... AND state='CLAIMED'`. -/
def requestCancellation (db : OperatorDb) (missionId : PyStr) : OperatorDb :=
  updateAssignments db (fun row => row.isIn missionId .claimed)
    fun row => { row with state := .cancelRequested }

def fenceAssignments (db : OperatorDb) (missionId now : PyStr) : OperatorDb × AssignmentFence :=
  let cancelled := updateAssignments db (fun row => row.isIn missionId .ready)
    fun row => { row with state := .cancelled, finishedAt := some now }
  (requestCancellation cancelled missionId,
    ⟨none, db.assignments.countP fun row => row.isIn missionId .ready,
      cancelled.assignments.countP fun row => row.isIn missionId .claimed⟩)

/-- `rebind_ready_assignments`: the new database and the number of rows. -/
def rebindReadyAssignments (db : OperatorDb) (missionId : PyStr) (inputs : CallInputs)
    (authorityOwner : PyStr) (generation : Option Int) : Except PyError (OperatorDb × Nat) := do
  let (db, state) ← ensureControlState db missionId inputs
  match generation <|> (driverRow db missionId).map DriverRow.generation with
  | none => return (db, 0)
  | some generation =>
    let moved ← moveAssignments db (fun row => row.isIn missionId .ready) fun row =>
      { row with
        leaseGeneration := generation
        controlEpoch := state.controlEpoch
        dispatchAuthority := authorityOwner }
    return (moved, db.assignments.countP fun row => row.isIn missionId .ready)

def releaseAssignmentHandoff (db : OperatorDb) (missionId now principalId : PyStr)
    (generation controlEpoch : Int) : Except PyError (OperatorDb × AssignmentFence) := do
  let foreign := fun row : AssignmentRow =>
    row.isIn missionId .ready && row.dispatchAuthority ≠ principalId
  let own := fun row : AssignmentRow =>
    row.isIn missionId .ready && row.dispatchAuthority = principalId
  let cancelled := updateAssignments db foreign fun row =>
    { row with state := .cancelled, finishedAt := some now }
  let rebound ← moveAssignments cancelled own fun row =>
    { row with
      leaseGeneration := generation
      controlEpoch := controlEpoch
      dispatchAuthority := autonomousOwner }
  return (requestCancellation rebound missionId,
    ⟨some (cancelled.assignments.countP own), db.assignments.countP foreign,
      rebound.assignments.countP fun row => row.isIn missionId .claimed⟩)

def assignmentAllowed (db : OperatorDb) (missionId authorityOwner : PyStr) (controlEpoch : Int) :
    Bool :=
  match findControl db missionId with
  | none => authorityOwner = autonomousOwner
  | some row =>
    if controlEpoch ≠ row.controlEpoch ∨ row.pauseLatch = true ∨ row.stopLatch = true then false
    else if authorityOwner = primaryOperator then row.controlOwner = primaryOperator
    else authorityOwner = autonomousOwner && row.controlOwner = autonomousOwner

def isCapabilityRevoked (db : OperatorDb) (missionId capability : PyStr) : Bool :=
  db.capabilityRevocations.any fun row =>
    row.missionId = missionId && row.capability = capability && row.releasedAt = none

end OperatorControl

end CyberLion
