import CyberLion.FleetCoordinationState

/-!
# Planning, requeueing and finishing missions

The remaining transactions of the store.  `plan` walks over the missions that
can start, in the order of their identifiers, and dispatches those whose
dependencies are done and whose branch and paths are free; leases that it has
claimed itself count for the missions behind.  `requeue` and
`record_terminal` end a dispatch and release its leases.
-/

namespace CyberLion

namespace FleetCoordination

open PyLib

def pathOverlap (first second : PyStr) : Bool :=
  let x := PosixPath.parts first
  let y := PosixPath.parts second
  let n := min x.length y.length
  x.take n = y.take n

theorem pathOverlap_iff {first second : PyStr} :
    pathOverlap first second = true ↔
      PosixPath.parts first <+: PosixPath.parts second ∨
        PosixPath.parts second <+: PosixPath.parts first := by
  rw [pathOverlap, decide_eq_true_eq]
  exact take_min_eq_iff_prefix _ _

/-! ### Leases -/

/-- The rows that `_claim_leases` inserts. -/
def leasesOf (dispatch : FleetDispatch) : List LeaseRow :=
  ⟨dispatch.repository, .branch, dispatch.branch, dispatch.missionId, dispatch.droneId,
      dispatch.dispatchId, dispatch.generation, dispatch.issuedAt⟩ ::
    dispatch.writeScope.map fun path =>
      ⟨dispatch.repository, .path, path, dispatch.missionId, dispatch.droneId,
        dispatch.dispatchId, dispatch.generation, dispatch.issuedAt⟩

def LeaseRow.key (lease : LeaseRow) : PyStr × LeaseKind × PyStr :=
  (lease.repository, lease.kind, lease.resource)

/-- `executemany` of the insertions, one after the other. -/
def insertLeases : List LeaseRow → List LeaseRow → Except PyError (List LeaseRow)
  | leases, [] => .ok leases
  | leases, lease :: rest => do
    raiseIf (lease.key ∈ leases.map LeaseRow.key)
      (stateError (py "lease conflict during atomic claim"))
    insertLeases (leases ++ [lease]) rest

namespace Database

def claimLeases (db : Database) (dispatch : FleetDispatch) : Except PyError Database := do
  raiseIf (2 ^ 63 ≤ dispatch.generation)
    ⟨.overflowError, py "Python int too large to convert to SQLite INTEGER"⟩
  let leases ← insertLeases db.leases (leasesOf dispatch)
  return { db with leases := leases }

def leasesAvailable (db : Database) (repository branch : PyStr) (scope : List PyStr) : Bool :=
  !(db.leases.any fun lease =>
      lease.repository = repository && lease.kind = .branch && lease.resource = branch) &&
    !(scope.any fun path => db.leases.any fun lease =>
      lease.repository = repository && lease.kind = .path && pathOverlap path lease.resource)

def dependenciesDone (db : Database) (missionId : PyStr) : Bool :=
  (db.dependencies.filter fun edge => edge.missionId = missionId).all fun edge =>
    (db.findMission edge.dependencyMissionId).any fun row => row.state = .done

/-- The leases that `_release` deletes. -/
def ownedLeases (db : Database) (missionId dispatchId : PyStr) : List LeaseRow :=
  db.leases.filter fun lease => lease.missionId = missionId && lease.dispatchId = dispatchId

def release (db : Database) (missionId dispatchId : PyStr) : Database :=
  { db with leases := db.leases.filter fun lease =>
      !(lease.missionId = missionId && lease.dispatchId = dispatchId) }

end Database

/-! ### Planning -/

/-- What all dispatches of one `plan` share. -/
structure PlanContext where
  request : FleetPlanRequest
  requestDigest : PyStr
  now : PyStr

def seedFields (kind coordinatorId requestDigest missionId droneId specDigest : PyStr)
    (generation : Int) (issuedAt : PyStr) : List (PyStr × Json) :=
  [(py "kind", .str kind), (py "coordinator_id", .str coordinatorId),
    (py "request_digest", .str requestDigest), (py "mission_id", .str missionId),
    (py "drone_id", .str droneId), (py "spec_digest", .str specDigest),
    (py "generation", .int generation), (py "issued_at", .str issuedAt)]

def dispatchSeed (kind coordinatorId requestDigest missionId droneId specDigest : PyStr)
    (generation : Int) (issuedAt : PyStr) : Json :=
  .obj (seedFields kind coordinatorId requestDigest missionId droneId specDigest generation
    issuedAt)

/-- The dispatch that `plan` builds for a row. -/
def buildDispatch (db : Database) (context : PlanContext) (row : MissionRow)
    (scope : List PyStr) : Except PyError FleetDispatch := do
  let seed := fun kind => dispatchSeed kind db.coordinatorId context.requestDigest
    row.missionId row.droneId row.specDigest (row.generation + 1) context.now
  let idBytes ← canonicalJson (seed (py "dispatch"))
  let fenceBytes ← canonicalJson (seed (py "fence"))
  return ⟨sha256 idBytes, sha256 fenceBytes, context.request.requestId, db.coordinatorId,
    row.missionId, row.droneId, row.generation + 1, row.repository, row.baselineSha,
    row.baselineTreeSha, row.branch, scope, context.now⟩

def MissionRow.dispatched (dispatch : FleetDispatch) (now : PyStr) (row : MissionRow) :
    MissionRow :=
  { row with
    state := .running
    generation := dispatch.generation
    dispatchId := some dispatch.dispatchId
    fencingToken := some dispatch.fencingToken
    terminalEvidenceRef := none
    lastRequeueEvidenceRef := none
    updatedAt := now }

def dispatchedPayload (context : PlanContext) (row : MissionRow) (dispatch : FleetDispatch) :
    List (PyStr × Json) :=
  [(py "request_id", .str context.request.requestId),
    (py "request_digest", .str context.requestDigest),
    (py "dispatch_id", .str dispatch.dispatchId),
    (py "fencing_token", .str dispatch.fencingToken),
    (py "generation", .int dispatch.generation), (py "spec_digest", .str row.specDigest)]

/-- Whether a row is dispatched in its turn: its write scope, or nothing when
it is passed over. -/
def considerMission (db : Database) (context : PlanContext) (row : MissionRow) :
    Except PyError (Option (List PyStr)) :=
  if db.dependenciesDone row.missionId then
    match (dictOfPairs context.request.currentHeads).lookup row.repository with
    | none => .error (stateError (py "current head missing for repository: " ++ row.repository))
    | some head => do
      raiseIf (head ≠ row.baselineSha) (stateError (py "stale baseline: " ++ row.repository ++
        py ":" ++ row.missionId))
      let scope ← storedTexts row.writeScopeJson
      if db.leasesAvailable row.repository row.branch scope then return some scope
      else return none
  else .ok none

def dispatchMission (db : Database) (context : PlanContext) (row : MissionRow)
    (scope : List PyStr) : Except PyError (Database × FleetDispatch) := do
  let dispatch ← buildDispatch db context row scope
  dispatch.validate
  let claimed ← db.claimLeases dispatch
  let updated := claimed.updateMission row.missionId (MissionRow.dispatched dispatch context.now)
  let logged ← updated.appendEvent .missionDispatched (some row.missionId)
    (dispatchedPayload context row dispatch) context.now
  return (logged, dispatch)

/-- The loop of `plan`, with the dispatches selected so far. -/
def planLoop (context : PlanContext) :
    List MissionRow → Database → List FleetDispatch →
      Except PyError (Database × List FleetDispatch)
  | [], db, selected => .ok (db, selected)
  | row :: rows, db, selected =>
    if context.request.maxParallel ≤ selected.length then .ok (db, selected)
    else do
      match ← considerMission db context row with
      | none => planLoop context rows db selected
      | some scope =>
        let (dispatched, dispatch) ← dispatchMission db context row scope
        planLoop context rows dispatched (selected ++ [dispatch])

namespace Database

/-- The rows that `plan` walks over. -/
def waitingMissions (db : Database) : List MissionRow :=
  (db.missions.filter fun row => row.state = .starting || row.state = .waiting).insertionSort
    fun first second => first.missionId ≤ second.missionId

end Database

def dispatchesJson (dispatches : List FleetDispatch) : Except PyError PyStr := do
  let values ← dispatches.mapM FleetDispatch.canonicalDict
  Json.dumps false true (.arr values)

namespace Database

/-- The end of `plan`: the plan row, its event and the new revision. -/
def commitPlan (db : Database) (context : PlanContext) (selected : List FleetDispatch) :
    Except PyError Database := do
  let result ← dispatchesJson selected
  let resultBytes ← encodeUtf8 result
  let request ← context.request.canonicalDict
  let requestBytes ← canonicalJson request
  let planRow : PlanRow := ⟨context.request.requestId, context.requestDigest,
    requestBytes.text, result, sha256 resultBytes, context.now⟩
  let recorded := { db with plans := db.plans ++ [planRow] }
  let logged ← recorded.appendEvent .planCommitted none
    [(py "request_id", .str context.request.requestId),
      (py "request_digest", .str context.requestDigest),
      (py "result_digest", .str (sha256 resultBytes)),
      (py "dispatch_ids", textList (selected.map FleetDispatch.dispatchId))] context.now
  return logged.bump

end Database

/-! ### Stored results -/

def fieldOf (fields : List (PyStr × Json)) (name : PyStr) : Except PyError Json :=
  match fields.lookup name with
  | some value => .ok value
  | none => .error ⟨.keyError, name⟩

def textFieldOf (fields : List (PyStr × Json)) (name : PyStr) : Except PyError PyStr := do
  let value ← fieldOf fields name
  textOf value

def intFieldOf (fields : List (PyStr × Json)) (name : PyStr) : Except PyError Int := do
  let value ← fieldOf fields name
  match value with
  | .int number => .ok number
  | _ => .error ⟨.typeError, name⟩

def textsFieldOf (fields : List (PyStr × Json)) (name : PyStr) : Except PyError (List PyStr) := do
  let value ← fieldOf fields name
  let items ← iterate value
  items.mapM textOf

/-- `except (KeyError, TypeError, ValueError)`. -/
def isReconstructionError (error : PyError) : Bool :=
  error.isInstance .keyError || error.isInstance .typeError || error.isInstance .valueError

/-- The record that a stored dispatch denotes, as far as its fields have the
types that `validate` demands. -/
def dispatchOfFields (fields : List (PyStr × Json)) : Except PyError FleetDispatch := do
  let dispatchId ← textFieldOf fields (py "dispatch_id")
  let fencingToken ← textFieldOf fields (py "fencing_token")
  let requestId ← textFieldOf fields (py "request_id")
  let coordinatorId ← textFieldOf fields (py "coordinator_id")
  let missionId ← textFieldOf fields (py "mission_id")
  let droneId ← textFieldOf fields (py "drone_id")
  let generation ← intFieldOf fields (py "generation")
  let repository ← textFieldOf fields (py "repository")
  let baselineSha ← textFieldOf fields (py "baseline_sha")
  let baselineTreeSha ← textFieldOf fields (py "baseline_tree_sha")
  let branch ← textFieldOf fields (py "branch")
  let writeScope ← textsFieldOf fields (py "write_scope")
  let issuedAt ← textFieldOf fields (py "issued_at")
  return ⟨dispatchId, fencingToken, requestId, coordinatorId, missionId, droneId, generation,
    repository, baselineSha, baselineTreeSha, branch, writeScope, issuedAt⟩

def dispatchOfJson : Json → Except PyError FleetDispatch
  | .obj fields =>
    rethrow isReconstructionError
      (fun _ => stateError (py "stored dispatch failed reconstruction")) do
        let dispatch ← dispatchOfFields fields
        dispatch.validate
        return dispatch
  | _ => .error (stateError (py "stored dispatch invalid"))

def dispatchesFromJson (raw : PyStr) : Except PyError (List FleetDispatch) := do
  let value ← rethrow (fun error => error.isInstance .jsonDecodeError)
    (fun _ => stateError (py "stored result JSON invalid")) (Json.loads Json.plainHooks raw)
  match value with
  | .arr items => items.mapM dispatchOfJson
  | _ => .error (stateError (py "stored result invalid"))

/-! ### The transactions -/

namespace Database

/-- The transaction of `plan` for a request that is not known. -/
def planNew (db : Database) (clock : ClockReading) (request : FleetPlanRequest)
    (digest : PyStr) : Except PyError (Database × List FleetDispatch) := do
  let now ← db.now clock
  let context : PlanContext := ⟨request, digest, now⟩
  let (dispatched, selected) ← planLoop context db.waitingMissions db []
  let committed ← dispatched.commitPlan context selected
  return (committed, selected)

def planCached (cached : PlanRow) (digest : PyStr) : Except PyError (List FleetDispatch) := do
  raiseIf (cached.requestDigest ≠ digest)
    (stateError (py "request_id replay substitution denied"))
  let bytes ← encodeUtf8 cached.resultJson
  raiseIf (sha256 bytes ≠ cached.resultDigest)
    (stateError (py "stored plan result digest mismatch"))
  dispatchesFromJson cached.resultJson

def plan (db : Database) (clock : ClockReading) (request : FleetPlanRequest) :
    Except PyError (Database × List FleetDispatch) := do
  request.validate
  raiseIf (request.coordinatorId ≠ db.coordinatorId)
    (stateError (py "plan coordinator mismatch"))
  let digest ← request.digest
  match db.plans.find? fun row => row.requestId = request.requestId with
  | some cached =>
    let dispatches ← planCached cached digest
    return (db, dispatches)
  | none => db.planNew clock request digest

def requireActive (row : MissionRow) (dispatchId fencingToken : PyStr) : Except PyError Unit :=
  raiseIf (row.dispatchId ≠ some dispatchId ∨ row.fencingToken ≠ some fencingToken)
    (stateError (py "stale or foreign dispatch fencing token denied"))

/-- The end of an active dispatch: its leases are released, its mission gets a
new state and the event is logged. -/
def endDispatch (db : Database) (row : MissionRow) (dispatchId : PyStr)
    (change : PyStr → MissionRow → MissionRow) (eventType : EventType)
    (payload : Nat → List (PyStr × Json)) (now : PyStr) : Except PyError Database := do
  let released := (db.ownedLeases row.missionId dispatchId).length
  let updated := (db.release row.missionId dispatchId).updateMission row.missionId (change now)
  let logged ← updated.appendEvent eventType (some row.missionId) (payload released) now
  return logged.bump

/-- The columns that `requeue` sets. -/
def requeuedRow (evidenceRef now : PyStr) (row : MissionRow) : MissionRow :=
  { row with
    state := .waiting
    terminalEvidenceRef := none
    lastRequeueEvidenceRef := some evidenceRef
    updatedAt := now }

def requeuedPayload (dispatchId evidenceRef : PyStr) (generation : Int) (released : Nat) :
    List (PyStr × Json) :=
  [(py "dispatch_id", .str dispatchId), (py "generation", .int generation),
    (py "evidence_ref", .str evidenceRef), (py "released_lease_count", .int released)]

/-- `requeue` of the mission in the given row. -/
def requeueRow (db : Database) (clock : ClockReading) (row : MissionRow)
    (dispatchId fencingToken evidenceRef : PyStr) : Except PyError Database :=
  if row.state = .waiting then
    if row.dispatchId = some dispatchId ∧ row.fencingToken = some fencingToken ∧
        row.lastRequeueEvidenceRef = some evidenceRef then .ok db
    else .error (stateError (py "requeue replay mismatch"))
  else if row.state = .running then do
    requireActive row dispatchId fencingToken
    let now ← db.now clock
    let _ ← encodeUtf8 evidenceRef
    db.endDispatch row dispatchId (requeuedRow evidenceRef) .missionRequeued
      (requeuedPayload dispatchId evidenceRef row.generation) now
  else .error (stateError (py "only RUNNING may requeue"))

def requeue (db : Database) (clock : ClockReading)
    (missionId dispatchId fencingToken evidenceRef : PyStr) : Except PyError Database := do
  stateText (py "mission_id") missionId
  stateDigest (py "dispatch_id") dispatchId
  stateDigest (py "fencing_token") fencingToken
  stateText (py "evidence_ref") evidenceRef
  let row ← db.requireMission missionId
  db.requeueRow clock row dispatchId fencingToken evidenceRef

/-- The columns that `record_terminal` sets. -/
def terminalRow (state : MissionState) (evidenceRef now : PyStr) (row : MissionRow) :
    MissionRow :=
  { row with
    state := state
    terminalEvidenceRef := some evidenceRef
    lastRequeueEvidenceRef := none
    updatedAt := now }

def terminalPayload (dispatchId evidenceRef : PyStr) (state : MissionState) (generation : Int)
    (released : Nat) : List (PyStr × Json) :=
  [(py "dispatch_id", .str dispatchId), (py "generation", .int generation),
    (py "terminal_state", .str state.text), (py "evidence_ref", .str evidenceRef),
    (py "released_lease_count", .int released)]

/-- `record_terminal` of the mission in the given row. -/
def recordTerminalRow (db : Database) (clock : ClockReading) (row : MissionRow)
    (dispatchId fencingToken evidenceRef : PyStr) (state : MissionState) :
    Except PyError Database :=
  if row.state.isTerminal then
    if row.state = state ∧ row.dispatchId = some dispatchId ∧
        row.fencingToken = some fencingToken ∧ row.terminalEvidenceRef = some evidenceRef then
      .ok db
    else .error (stateError (py "terminal replay mismatch"))
  else if row.state = .running then do
    requireActive row dispatchId fencingToken
    let now ← db.now clock
    let _ ← encodeUtf8 evidenceRef
    db.endDispatch row dispatchId (terminalRow state evidenceRef) .missionTerminal
      (terminalPayload dispatchId evidenceRef state row.generation) now
  else .error (stateError (py "only RUNNING may become terminal"))

def recordTerminal (db : Database) (clock : ClockReading)
    (missionId dispatchId fencingToken terminalState evidenceRef : PyStr) :
    Except PyError Database := do
  stateText (py "mission_id") missionId
  stateDigest (py "dispatch_id") dispatchId
  stateDigest (py "fencing_token") fencingToken
  stateText (py "evidence_ref") evidenceRef
  match terminalStateOf terminalState with
  | none => .error (stateError (py "terminal_state invalid"))
  | some state => do
    let row ← db.requireMission missionId
    db.recordTerminalRow clock row dispatchId fencingToken evidenceRef state

end Database

end FleetCoordination

end CyberLion
