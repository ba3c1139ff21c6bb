import CyberLion.FleetCoordinationPlan

/-!
# Opening a fleet coordination store

The constructor of `FleetCoordinationStore` binds the coordinator and then
verifies what it finds: the event chain, the stored specifications, requests
and dispatches, and the mission rows and leases against a replay of the
events.
-/

namespace CyberLion

namespace FleetCoordination

open PyLib

/-! ### Stored specifications and requests -/

/-- `except (json.JSONDecodeError, TypeError, ValueError)`. -/
def isSpecError (error : PyError) : Bool :=
  error.isInstance .jsonDecodeError || error.isInstance .typeError ||
    error.isInstance .valueError

def reconstructSpec (row : MissionRow) : Except PyError FleetCoordinationSpec :=
  rethrow isSpecError (fun _ => stateError (py "mission spec reconstruction failed")) do
    let scope ← storedTexts row.writeScopeJson
    let dependencies ← storedTexts row.dependenciesJson
    let evidence ← storedTexts row.evidenceRefsJson
    let spec : FleetCoordinationSpec := ⟨row.missionId, row.droneId, row.repository,
      row.baselineSha, row.baselineTreeSha, row.branch, scope, dependencies, evidence⟩
    spec.validate
    return spec

/-- One entry of `current_heads`. -/
def headOfJson (value : Json) : Except PyError (PyStr × PyStr) := do
  let entry ← iterate value
  match entry with
  | [repository, head] => do
    let repositoryText ← textOf repository
    let headText ← textOf head
    return (repositoryText, headText)
  | _ => .error (contractError (py "current_heads entries must be pairs"))

def requestOfFields (fields : List (PyStr × Json)) : Except PyError FleetPlanRequest := do
  let requestId ← textFieldOf fields (py "request_id")
  let coordinatorId ← textFieldOf fields (py "coordinator_id")
  let headsValue ← fieldOf fields (py "current_heads")
  let headItems ← iterate headsValue
  let heads ← headItems.mapM headOfJson
  let maxParallel ← intFieldOf fields (py "max_parallel")
  return ⟨requestId, coordinatorId, heads, maxParallel⟩

def requestFromJson (raw : PyStr) : Except PyError FleetPlanRequest := do
  let value ← rethrow (fun error => error.isInstance .jsonDecodeError)
    (fun _ => stateError (py "stored request JSON invalid")) (Json.loads Json.plainHooks raw)
  match value with
  | .obj fields =>
    rethrow isReconstructionError
      (fun _ => stateError (py "stored request failed reconstruction")) do
        let request ← requestOfFields fields
        request.validate
        return request
  | _ => .error (stateError (py "stored request invalid"))

/-! ### The event chain -/

/-- Where the walk over the events stands: the last digest and the last time. -/
abbrev ChainState := PyStr × Option DateTime

/-- One round of `verify_event_chain`. -/
def verifyEvent (state : ChainState) (event : EventRow) : Except PyError ChainState := do
  let value ← rethrow (fun error => error.isInstance .jsonDecodeError)
    (fun _ => stateError (py "event payload corruption"))
    (Json.loads Json.plainHooks event.payloadJson)
  match value with
  | .obj payload => do
    let expected ← eventDigestOf state.1 event.eventType event.missionId payload
      event.observedAt
    let time ← parseTime event.observedAt
    raiseIf (∃ last ∈ state.2, time.packed < last.packed)
      (stateError (py "event time ordering corruption"))
    raiseIf (event.previousDigest ≠ state.1 ∨ event.eventDigest ≠ expected ∨
        event.eventId ≠ expected)
      (stateError (py "event chain corruption"))
    return (expected, some time)
  | _ => .error (stateError (py "event payload corruption"))

def verifyEventChain (db : Database) : Except PyError PyStr := do
  let (last, _) ← db.events.foldlM verifyEvent (zeroDigest, none)
  raiseIf (db.eventHead ≠ last) (stateError (py "event chain head mismatch"))
  return last

/-! ### The replay -/

/-- What the replay knows of a mission, as values of the event payloads. -/
structure ReplayEntry where
  state : Json
  generation : Json
  dispatchId : Json
  fencingToken : Json
  terminalEvidenceRef : Json
  lastRequeueEvidenceRef : Json

abbrev Replay := List (Option PyStr × ReplayEntry)

def registeredEntry : ReplayEntry :=
  ⟨.str MissionState.starting.text, .int 0, .null, .null, .null, .null⟩

/-- `payload[name]`. -/
def payloadField (payload : Json) (name : PyStr) : Except PyError Json :=
  match payload with
  | .obj fields => fieldOf fields name
  | _ => .error ⟨.typeError, py "payload indices"⟩

/-- `replay[mission]`. -/
def replayedEntry (replay : Replay) (missionId : Option PyStr) : Except PyError ReplayEntry :=
  match replay.lookup missionId with
  | some entry => .ok entry
  | none => .error ⟨.keyError, py "mission"⟩

def replayChange (eventType : EventType) (payload : Json) (entry : ReplayEntry) :
    Except PyError ReplayEntry :=
  match eventType with
  | .missionRegistered => .ok registeredEntry
  | .missionDispatched => do
    let generation ← payloadField payload (py "generation")
    let dispatchId ← payloadField payload (py "dispatch_id")
    let fencingToken ← payloadField payload (py "fencing_token")
    return ⟨.str MissionState.running.text, generation, dispatchId, fencingToken, .null, .null⟩
  | .missionRequeued => do
    let evidenceRef ← payloadField payload (py "evidence_ref")
    return { entry with
      state := .str MissionState.waiting.text
      lastRequeueEvidenceRef := evidenceRef
      terminalEvidenceRef := .null }
  | .missionTerminal => do
    let state ← payloadField payload (py "terminal_state")
    let evidenceRef ← payloadField payload (py "evidence_ref")
    return { entry with
      state := state
      terminalEvidenceRef := evidenceRef
      lastRequeueEvidenceRef := .null }
  | .planCommitted => .ok entry

def replayEvent (replay : Replay) (event : EventRow) : Except PyError Replay := do
  let payload ← Json.loads Json.plainHooks event.payloadJson
  match event.eventType with
  | .planCommitted => return replay
  | .missionRegistered => return dictSet event.missionId registeredEntry replay
  | eventType => do
    let entry ← replayedEntry replay event.missionId
    let changed ← replayChange eventType payload entry
    return dictSet event.missionId changed replay

def textMatches (column : PyStr) : Json → Bool
  | .str text => text = column
  | _ => false

def optionalMatches (column : Option PyStr) (value : Json) : Bool :=
  match column, value with
  | none, .null => true
  | some text, .str other => text = other
  | _, _ => false

/-- Equality of an integer column with a replayed value; `True` is one. -/
def intMatches (column : Int) : Json → Bool
  | .int number => number = column
  | .bool value => column = if value then 1 else 0
  | _ => false

def replayMismatch (name : PyStr) : PyError :=
  stateError (py "materialized mission state mismatch: " ++ name)

def verifyReplayedRow (replay : Replay) (row : MissionRow) : Except PyError Unit := do
  let entry ← replayedEntry replay (some row.missionId)
  raiseIf (¬ textMatches row.state.text entry.state = true) (replayMismatch (py "state"))
  raiseIf (¬ intMatches row.generation entry.generation = true)
    (replayMismatch (py "generation"))
  raiseIf (¬ optionalMatches row.dispatchId entry.dispatchId = true)
    (replayMismatch (py "dispatch_id"))
  raiseIf (¬ optionalMatches row.fencingToken entry.fencingToken = true)
    (replayMismatch (py "fencing_token"))
  raiseIf (¬ optionalMatches row.terminalEvidenceRef entry.terminalEvidenceRef = true)
    (replayMismatch (py "terminal_evidence_ref"))
  raiseIf (¬ optionalMatches row.lastRequeueEvidenceRef entry.lastRequeueEvidenceRef = true)
    (replayMismatch (py "last_requeue_evidence_ref"))

def verifyMaterializedStateFromEvents (db : Database) : Except PyError Unit := do
  let replay ← db.events.foldlM replayEvent []
  let known := db.missions.map fun row => some row.missionId
  raiseIf (¬ (replay.map Prod.fst ⊆ known ∧ known ⊆ replay.map Prod.fst))
    (stateError (py "event/materialized mission population mismatch"))
  forM db.missions (verifyReplayedRow replay)

/-! ### Consistency of the tables -/

def dependenciesOf (db : Database) (missionId : PyStr) : List PyStr :=
  (db.dependencies.filter fun edge => edge.missionId = missionId).map
    DependencyRow.dependencyMissionId

/-- The check of one mission row, with the specification it stores. -/
def verifyMission (db : Database) (row : MissionRow) :
    Except PyError (PyStr × FleetCoordinationSpec) := do
  let spec ← reconstructSpec row
  let digest ← spec.digest
  raiseIf (digest ≠ row.specDigest) (stateError (py "mission spec digest mismatch"))
  raiseIf (¬ (dependenciesOf db row.missionId ⊆ spec.dependencies ∧
      spec.dependencies ⊆ dependenciesOf db row.missionId))
    (stateError (py "dependency materialization mismatch"))
  return (row.missionId, spec)

def verifyDispatch (specs : List (PyStr × FleetCoordinationSpec)) (request : FleetPlanRequest)
    (dispatch : FleetDispatch) : Except PyError Unit :=
  match specs.lookup dispatch.missionId with
  | none => .error (stateError (py "dispatch references unknown mission"))
  | some spec =>
    rethrow (fun error => error.isInstance .valueError)
      (fun _ => stateError (py "dispatch-to-spec binding mismatch"))
      (dispatch.validateFor spec request)

def verifyPlan (coordinatorId : PyStr) (specs : List (PyStr × FleetCoordinationSpec))
    (plan : PlanRow) : Except PyError (List FleetDispatch) := do
  let mismatch := stateError (py "plan request digest/materialization mismatch")
  let request ← requestFromJson plan.requestJson
  raiseIf (request.requestId ≠ plan.requestId ∨ request.coordinatorId ≠ coordinatorId) mismatch
  let digest ← request.digest
  raiseIf (digest ≠ plan.requestDigest) mismatch
  let bytes ← encodeUtf8 plan.resultJson
  raiseIf (sha256 bytes ≠ plan.resultDigest)
    (stateError (py "stored plan result digest mismatch"))
  let dispatches ← dispatchesFromJson plan.resultJson
  forM dispatches (verifyDispatch specs request)
  return dispatches

def expectedLeases (spec : FleetCoordinationSpec) : List (LeaseKind × PyStr) :=
  (.branch, spec.branch) :: spec.writeScope.map fun path => (.path, path)

def verifyBinding (dispatches : List (PyStr × FleetDispatch)) (row : MissionRow) :
    Except PyError Unit :=
  raiseIf (0 < row.generation ∧
      ¬ ∃ dispatch ∈ row.dispatchId.bind fun dispatchId => dispatches.lookup dispatchId,
        some dispatch.fencingToken = row.fencingToken ∧ dispatch.generation = row.generation)
    (stateError (py "materialized dispatch binding mismatch"))

def verifyLeases (db : Database) (specs : List (PyStr × FleetCoordinationSpec))
    (row : MissionRow) : Except PyError Unit := do
  let leases := db.leases.filter fun lease => lease.missionId = row.missionId
  let actual := leases.map fun lease => (lease.kind, lease.resource)
  if row.state = .running then
    match specs.lookup row.missionId with
    | none => .error ⟨.keyError, row.missionId⟩
    | some spec => do
      raiseIf (¬ (expectedLeases spec ⊆ actual ∧ actual ⊆ expectedLeases spec))
        (stateError (py "RUNNING mission lease set mismatch"))
      forM leases fun lease =>
        raiseIf (some lease.dispatchId ≠ row.dispatchId ∨
            lease.generation ≠ row.generation ∨ lease.droneId ≠ row.droneId ∨
            lease.repository ≠ row.repository)
          (stateError (py "active lease binding mismatch"))
  else raiseIf (leases ≠ []) (stateError (py "non-RUNNING mission owns active leases"))

def verifyConsistency (db : Database) : Except PyError Unit := do
  let specs ← db.missions.mapM (verifyMission db)
  let dispatches ← db.plans.mapM (verifyPlan db.coordinatorId specs)
  verifyMaterializedStateFromEvents db
  let byId := dictOfPairs (dispatches.flatten.map fun dispatch =>
    (dispatch.dispatchId, dispatch))
  forM db.missions fun row => do
    verifyBinding byId row
    verifyLeases db specs row

/-- The meta table binds a new file to the coordinator and an old one must
already be bound to it. -/
def bindCoordinator (coordinatorId : PyStr) : Option Database → Except PyError Database
  | none => do
    let _ ← encodeUtf8 coordinatorId
    return emptyDatabase coordinatorId
  | some db => do
    raiseIf (db.coordinatorId ≠ coordinatorId)
      (stateError (py "coordinator instance substitution denied"))
    return db

/-- The constructor of `FleetCoordinationStore` on a database file that is new
or was left by an earlier store. -/
def openStore (coordinatorId : PyStr) (stored : Option Database) : Except PyError Database := do
  stateText (py "coordinator_id") coordinatorId
  let db ← bindCoordinator coordinatorId stored
  let _ ← verifyEventChain db
  verifyConsistency db
  return db

end FleetCoordination

end CyberLion
