import CyberLion.FleetCoordination
import CyberLion.PyIsoFormat

/-!
# The fleet coordination store

`FleetCoordinationStore` of `enterprise/fleet_coordination_state.py`.  The
database is a value, and an operation is one transaction: it returns the new
database with its result, or raises and leaves the database as it was.  What
an operation reads of its surroundings is an argument: the reading of the
handle's clock and, where the code recurses, the stack that is left.

Columns hold the texts that are written to them, JSON columns included.  An
insertion that breaks a key or a `UNIQUE` constraint raises
`IntegrityError`, and binding a text that has no UTF-8 form or an integer
beyond 64 bits raises as the driver does.
-/

namespace CyberLion

namespace FleetCoordination

open PyLib

def stateErrorClass : ErrorClass :=
  .declared .runtimeError (py "FleetCoordinationStateError")

/-- `FleetCoordinationStateError(message)`. -/
def stateError (message : PyStr) : PyError :=
  ⟨stateErrorClass, message⟩

/-! ### Tables -/

inductive MissionState
  | starting
  | waiting
  | running
  | done
  | failed
  | terminated
  deriving DecidableEq

def MissionState.text : MissionState → PyStr
  | .starting => py "STARTING"
  | .waiting => py "WAITING"
  | .running => py "RUNNING"
  | .done => py "DONE"
  | .failed => py "FAILED"
  | .terminated => py "TERMINATED"

/-- Membership in `TERMINAL_STATES`. -/
def MissionState.isTerminal : MissionState → Bool
  | .done | .failed | .terminated => true
  | .starting | .waiting | .running => false

/-- The element of `TERMINAL_STATES` that a text names. -/
def terminalStateOf (text : PyStr) : Option MissionState :=
  [MissionState.done, .failed, .terminated].find? fun state => state.text = text

inductive LeaseKind
  | branch
  | path
  deriving DecidableEq

inductive EventType
  | missionRegistered
  | missionDispatched
  | missionRequeued
  | missionTerminal
  | planCommitted
  deriving DecidableEq

def EventType.text : EventType → PyStr
  | .missionRegistered => py "MISSION_REGISTERED"
  | .missionDispatched => py "MISSION_DISPATCHED"
  | .missionRequeued => py "MISSION_REQUEUED"
  | .missionTerminal => py "MISSION_TERMINAL"
  | .planCommitted => py "PLAN_COMMITTED"

structure MissionRow where
  missionId : PyStr
  droneId : PyStr
  repository : PyStr
  baselineSha : PyStr
  baselineTreeSha : PyStr
  branch : PyStr
  writeScopeJson : PyStr
  dependenciesJson : PyStr
  evidenceRefsJson : PyStr
  specDigest : PyStr
  state : MissionState
  generation : Int
  dispatchId : Option PyStr
  fencingToken : Option PyStr
  terminalEvidenceRef : Option PyStr
  lastRequeueEvidenceRef : Option PyStr
  registeredAt : PyStr
  updatedAt : PyStr
  deriving DecidableEq

structure DependencyRow where
  missionId : PyStr
  dependencyMissionId : PyStr
  deriving DecidableEq

structure LeaseRow where
  repository : PyStr
  kind : LeaseKind
  resource : PyStr
  missionId : PyStr
  droneId : PyStr
  dispatchId : PyStr
  generation : Int
  acquiredAt : PyStr
  deriving DecidableEq

structure PlanRow where
  requestId : PyStr
  requestDigest : PyStr
  requestJson : PyStr
  resultJson : PyStr
  resultDigest : PyStr
  observedAt : PyStr
  deriving DecidableEq

structure EventRow where
  eventId : PyStr
  eventType : EventType
  missionId : Option PyStr
  payloadJson : PyStr
  previousDigest : PyStr
  eventDigest : PyStr
  observedAt : PyStr
  deriving DecidableEq

/-- The tables, each in the order of its insertions, with the `meta` row. -/
structure Database where
  coordinatorId : PyStr
  revision : Nat
  eventHead : PyStr
  missions : List MissionRow
  dependencies : List DependencyRow
  leases : List LeaseRow
  plans : List PlanRow
  events : List EventRow
  deriving DecidableEq

def zeroDigest : PyStr :=
  pyRepeat (digitPoint 0) 64

/-- The database right after its `meta` row was inserted. -/
def emptyDatabase (coordinatorId : PyStr) : Database where
  coordinatorId := coordinatorId
  revision := 0
  eventHead := zeroDigest
  missions := []
  dependencies := []
  leases := []
  plans := []
  events := []

/-! ### Arguments and stored texts -/

/-- `_text`. -/
def stateText (name value : PyStr) : Except PyError Unit :=
  raiseIf (isBlank value || hasNul value) (stateError (name ++ py " is invalid"))

/-- `_digest`. -/
def stateDigest (name value : PyStr) : Except PyError Unit := do
  stateText name value
  raiseIf (¬ isLowerHexOf 64 value = true) (stateError (name ++ py " must be sha256 hex"))

/-- The members that `tuple(value)` collects. -/
def iterate : Json → Except PyError (List Json)
  | .arr items => .ok items
  | .str text => .ok (text.map fun c => .str [c])
  | .obj fields => .ok (fields.map fun field => .str field.1)
  | _ => .error ⟨.typeError, py "object is not iterable"⟩

def textOf : Json → Except PyError PyStr
  | .str text => .ok text
  | _ => .error ⟨.typeError, py "argument should be a str object"⟩

/-- `tuple(json.loads(column))` for a column of texts.  A member that is not a
text is refused at once; the checks behind every use refuse it otherwise. -/
def storedTexts (column : PyStr) : Except PyError (List PyStr) := do
  let value ← Json.loads Json.plainHooks column
  let items ← iterate value
  items.mapM textOf

/-! ### Time -/

abbrev ClockReading := Except PyError Moment

def utc : Moment → Except PyError PyStr
  | .naive _ => .error (stateError (py "trusted clock must be timezone-aware"))
  | .aware time offset => do
    let utcTime ← time.astimezoneUtc offset
    return utcTime.isoformatUtc

def parseTime (text : PyStr) : Except PyError DateTime :=
  match fromIsoFormat (pyReplace 0x5A (py "+00:00") text) with
  | none => .error (stateError (py "stored timestamp invalid"))
  | some (.naive _) => .error (stateError (py "stored timestamp not timezone-aware"))
  | some (.aware time offset) => time.astimezoneUtc offset

namespace Database

def notBefore (db : Database) (now : PyStr) : Except PyError Unit :=
  match db.events.getLast? with
  | none => .ok ()
  | some event => do
    let current ← parseTime now
    let last ← parseTime event.observedAt
    raiseIf (current.packed < last.packed) (stateError (py "trusted clock rollback denied"))

def now (db : Database) (clock : ClockReading) : Except PyError PyStr := do
  let moment ← clock
  let now ← utc moment
  db.notBefore now
  return now

def bump (db : Database) : Database :=
  { db with revision := db.revision + 1 }

/-! ### Events -/

end Database

def optionalText : Option PyStr → Json
  | none => .null
  | some text => .str text

/-- `_event_digest`. -/
def eventDigestOf (previous : PyStr) (eventType : EventType) (missionId : Option PyStr)
    (payload : List (PyStr × Json)) (observedAt : PyStr) : Except PyError PyStr := do
  let bytes ← canonicalJson (.obj [(py "previous_digest", .str previous),
    (py "event_type", .str eventType.text), (py "mission_id", optionalText missionId),
    (py "payload", .obj payload), (py "observed_at", .str observedAt)])
  return sha256 bytes

def integrityError (message : PyStr) : PyError :=
  ⟨.integrityError, message⟩

namespace Database

def appendEvent (db : Database) (eventType : EventType) (missionId : Option PyStr)
    (payload : List (PyStr × Json)) (observedAt : PyStr) : Except PyError Database := do
  let digest ← eventDigestOf db.eventHead eventType missionId payload observedAt
  let payloadBytes ← canonicalJson (.obj payload)
  raiseIf (∃ event ∈ db.events, event.eventId = digest ∨ event.eventDigest = digest)
    (integrityError (py "UNIQUE constraint failed: fleet_coordination_event"))
  return { db with
    eventHead := digest
    events := db.events ++ [⟨digest, eventType, missionId, payloadBytes.text, db.eventHead,
      digest, observedAt⟩] }

/-! ### Missions -/

def findMission (db : Database) (missionId : PyStr) : Option MissionRow :=
  db.missions.find? fun row => row.missionId = missionId

/-- `UPDATE fleet_coordination_mission SET ... WHERE mission_id=?`. -/
def updateMission (db : Database) (missionId : PyStr) (change : MissionRow → MissionRow) :
    Database :=
  { db with missions := db.missions.map fun row =>
      if row.missionId = missionId then change row else row }

def requireMission (db : Database) (missionId : PyStr) : Except PyError MissionRow := do
  let _ ← encodeUtf8 missionId
  match db.findMission missionId with
  | none => .error (stateError (py "unknown mission: " ++ missionId))
  | some row => .ok row

/-- `_dependency_graph`.  A dependency row references a registered mission. -/
def dependencyGraph (db : Database) : List (PyStr × List PyStr) :=
  db.missions.map fun row => (row.missionId,
    (db.dependencies.filter fun edge => edge.missionId = row.missionId).map
      DependencyRow.dependencyMissionId)

end Database

/-! ### Dependency cycles -/

/-- The sets of `_has_cycle`. -/
structure CycleSearch where
  visiting : List PyStr
  visited : List PyStr

def visitEach (graph : List (PyStr × List PyStr))
    (visit : PyStr → CycleSearch → Except PyError (Bool × CycleSearch)) :
    List PyStr → CycleSearch → Except PyError (Bool × CycleSearch)
  | [], search => .ok (false, search)
  | node :: nodes, search =>
    if node ∈ graph.map Prod.fst then do
      let (found, search) ← visit node search
      if found then return (true, search) else visitEach graph visit nodes search
    else visitEach graph visit nodes search

/-- `visit`, with the number of nested calls the interpreter still admits. -/
def visit (graph : List (PyStr × List PyStr)) :
    Nat → PyStr → CycleSearch → Except PyError (Bool × CycleSearch)
  | 0, _, _ => .error ⟨.runtimeError, py "maximum recursion depth exceeded"⟩
  | depth + 1, node, search =>
    if node ∈ search.visited then .ok (false, search)
    else if node ∈ search.visiting then .ok (true, search)
    else do
      let (found, after) ← visitEach graph (visit graph depth)
        ((graph.lookup node).getD []) { search with visiting := node :: search.visiting }
      if found then return (true, after)
      else return (false, ⟨after.visiting.erase node, node :: after.visited⟩)

def hasCycle (depth : Nat) (graph : List (PyStr × List PyStr)) : Except PyError Bool := do
  let (found, _) ← visitEach graph (visit graph depth) (graph.map Prod.fst) ⟨[], []⟩
  return found

/-! ### Registering a mission -/

/-- The row that `register_mission` inserts. -/
def registeredRow (spec : FleetCoordinationSpec)
    (digest scopeJson dependenciesJson evidenceJson now : PyStr) : MissionRow where
  missionId := spec.missionId
  droneId := spec.droneId
  repository := spec.repository
  baselineSha := spec.baselineSha
  baselineTreeSha := spec.baselineTreeSha
  branch := spec.branch
  writeScopeJson := scopeJson
  dependenciesJson := dependenciesJson
  evidenceRefsJson := evidenceJson
  specDigest := digest
  state := .starting
  generation := 0
  dispatchId := none
  fencingToken := none
  terminalEvidenceRef := none
  lastRequeueEvidenceRef := none
  registeredAt := now
  updatedAt := now

namespace Database

/-- The two insertions of `register_mission`. -/
def insertMission (db : Database) (spec : FleetCoordinationSpec) (digest now : PyStr) :
    Except PyError Database := do
  let scopeJson ← Json.dumps true false (textList spec.writeScope)
  let dependenciesJson ← Json.dumps true false (textList spec.dependencies)
  let evidenceJson ← Json.dumps true false (textList spec.evidenceRefs)
  raiseIf (digest ∈ db.missions.map MissionRow.specDigest)
    (integrityError (py "UNIQUE constraint failed: fleet_coordination_mission.spec_digest"))
  return { db with
    missions := db.missions ++
      [registeredRow spec digest scopeJson dependenciesJson evidenceJson now]
    dependencies := db.dependencies ++
      spec.dependencies.map fun dependency => ⟨spec.missionId, dependency⟩ }

/-- The transaction of `register_mission` for a mission that is not known. -/
def registerNew (db : Database) (depth : Nat) (clock : ClockReading)
    (spec : FleetCoordinationSpec) (digest : PyStr) : Except PyError Database := do
  raiseIf (spec.droneId ∈ db.missions.map MissionRow.droneId)
    (stateError (py "drone already bound"))
  let cyclic ← hasCycle depth (dictSet spec.missionId spec.dependencies db.dependencyGraph)
  raiseIf (cyclic = true) (stateError (py "dependency cycle detected"))
  let now ← db.now clock
  let inserted ← db.insertMission spec digest now
  let logged ← inserted.appendEvent .missionRegistered (some spec.missionId)
    [(py "drone_id", .str spec.droneId), (py "spec_digest", .str digest)] now
  return logged.bump

def registerMission (db : Database) (depth : Nat) (clock : ClockReading)
    (spec : FleetCoordinationSpec) : Except PyError Database := do
  spec.validate
  let digest ← spec.digest
  match db.findMission spec.missionId with
  | some row =>
    if row.specDigest = digest then .ok db
    else .error (stateError (py "mission identity substitution denied"))
  | none => db.registerNew depth clock spec digest

end Database

end FleetCoordination

end CyberLion
