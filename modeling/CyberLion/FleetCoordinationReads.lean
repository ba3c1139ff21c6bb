import CyberLion.AtomicProgram
import CyberLion.FleetCoordinationLifecycle
import CyberLion.Sha256Evaluation

/-!
# Reading the fleet store

`mission_state`, `active_leases` and `snapshot` of the store, with the records
of `contracts/fleet_coordination.py` that they return.  A reader opens its own
connection without a transaction, so each `SELECT` sees the state that is
committed when it runs.

The readers check the columns again, and more strictly than the writers have:
the evidence of a terminal mission and the name of the coordinator may be too
long for them or hold control characters.
-/

namespace CyberLion

namespace FleetCoordination

open PyLib

/-! ### Records -/

def optionalField (check : PyStr → Except PyError Unit) : Option PyStr → Except PyError Unit
  | none => .ok ()
  | some value => check value

structure FleetMissionState where
  missionId : PyStr
  droneId : PyStr
  state : MissionState
  generation : Int
  specDigest : PyStr
  dispatchId : Option PyStr
  fencingToken : Option PyStr
  terminalEvidenceRef : Option PyStr
  updatedAt : PyStr
  deriving DecidableEq

def FleetMissionState.validate (mission : FleetMissionState) : Except PyError Unit := do
  textField 4096 (py "mission_id") mission.missionId
  textField 4096 (py "drone_id") mission.droneId
  sha256Field (py "spec_digest") mission.specDigest
  optionalField (sha256Field (py "dispatch_id")) mission.dispatchId
  optionalField (sha256Field (py "fencing_token")) mission.fencingToken
  optionalField (textField 4096 (py "terminal_evidence_ref")) mission.terminalEvidenceRef
  textField 4096 (py "updated_at") mission.updatedAt
  raiseIf (mission.generation < 0) (contractError (py "mission state is invalid"))
  raiseIf (mission.state = .running ∧ (mission.dispatchId.getD [] = [] ∨
      mission.fencingToken.getD [] = [] ∨ mission.generation < 1))
    (contractError (py "RUNNING requires fenced dispatch"))
  raiseIf (mission.state.isTerminal = true ∧ mission.terminalEvidenceRef = none)
    (contractError (py "terminal mission requires evidence reference"))

structure FleetLease where
  missionId : PyStr
  droneId : PyStr
  dispatchId : PyStr
  generation : Int
  repository : PyStr
  leaseKind : LeaseKind
  resource : PyStr
  acquiredAt : PyStr
  deriving DecidableEq

def FleetLease.validateResource (lease : FleetLease) : Except PyError Unit :=
  match lease.leaseKind with
  | .branch => branchField lease.resource
  | .path => writeScopeField [lease.resource]

def FleetLease.validate (lease : FleetLease) : Except PyError Unit := do
  textField 4096 (py "mission_id") lease.missionId
  textField 4096 (py "drone_id") lease.droneId
  textField 4096 (py "resource") lease.resource
  textField 4096 (py "acquired_at") lease.acquiredAt
  sha256Field (py "dispatch_id") lease.dispatchId
  repositoryField lease.repository
  raiseIf (lease.generation < 1) (contractError (py "lease is invalid"))
  lease.validateResource

structure FleetCoordinationSnapshot where
  coordinatorId : PyStr
  revision : Nat
  eventHead : PyStr
  missions : List FleetMissionState
  activeLeases : List FleetLease
  deriving DecidableEq

def FleetCoordinationSnapshot.validate (snapshot : FleetCoordinationSnapshot) :
    Except PyError Unit := do
  textField 4096 (py "coordinator_id") snapshot.coordinatorId
  sha256Field (py "event_head") snapshot.eventHead
  forM snapshot.missions FleetMissionState.validate
  forM snapshot.activeLeases FleetLease.validate
  raiseIf (¬ (snapshot.missions.map FleetMissionState.missionId).Nodup)
    (contractError (py "duplicate missions"))

/-! ### Readers -/

def MissionRow.toState (row : MissionRow) : FleetMissionState :=
  ⟨row.missionId, row.droneId, row.state, row.generation, row.specDigest, row.dispatchId,
    row.fencingToken, row.terminalEvidenceRef, row.updatedAt⟩

/-- `_mission_state`. -/
def missionStateOf (row : MissionRow) : Except PyError FleetMissionState := do
  row.toState.validate
  return row.toState

def LeaseRow.toLease (row : LeaseRow) : FleetLease :=
  ⟨row.missionId, row.droneId, row.dispatchId, row.generation, row.repository, row.kind,
    row.resource, row.acquiredAt⟩

def leaseOf (row : LeaseRow) : Except PyError FleetLease := do
  row.toLease.validate
  return row.toLease

def LeaseKind.text : LeaseKind → PyStr
  | .branch => py "BRANCH"
  | .path => py "PATH"

/-- `ORDER BY repository,lease_kind,resource`. -/
def LeaseRow.before (first second : LeaseRow) : Bool :=
  first.repository < second.repository || (first.repository = second.repository &&
    (first.kind.text < second.kind.text || (first.kind.text = second.kind.text &&
      first.resource ≤ second.resource)))

namespace Database

/-- The rows of the mission table in the order of `snapshot`. -/
def sortedMissions (db : Database) : List MissionRow :=
  db.missions.insertionSort fun first second => first.missionId ≤ second.missionId

/-- The rows of the lease table in the order of `_leases`. -/
def sortedLeases (db : Database) : List LeaseRow :=
  db.leases.insertionSort fun first second => first.before second = true

def missionState (db : Database) (missionId : PyStr) : Except PyError FleetMissionState := do
  let row ← db.requireMission missionId
  missionStateOf row

/-- The mission part of `snapshot`. -/
def readMissions (db : Database) : Except PyError (List FleetMissionState) :=
  db.sortedMissions.mapM missionStateOf

def activeLeases (db : Database) : Except PyError (List FleetLease) :=
  db.sortedLeases.mapM leaseOf

end Database

/-- The end of `snapshot`. -/
def buildSnapshot (coordinatorId : PyStr) (revision : Nat) (eventHead : PyStr)
    (missions : List FleetMissionState) (leases : List FleetLease) :
    Except PyError FleetCoordinationSnapshot := do
  let snapshot : FleetCoordinationSnapshot :=
    ⟨coordinatorId, revision, eventHead, missions, leases⟩
  snapshot.validate
  return snapshot

/-- `snapshot`: three statements, each on the state that is committed then. -/
def snapshot : PyProg Database FleetCoordinationSnapshot := do
  let (coordinatorId, revision, eventHead) ←
    PyProg.read fun db => .ok (db.coordinatorId, db.revision, db.eventHead)
  let missions ← PyProg.read Database.readMissions
  let leases ← PyProg.read Database.activeLeases
  PyProg.lift (buildSnapshot coordinatorId revision eventHead missions leases)

structure ReadsReturn (db : Database) : Prop where
  snapshot : ∃ result, (PyProg.runAlone snapshot db).2 = .ok result
  activeLeases : ∃ leases, db.activeLeases = .ok leases
  missionState : ∀ missionId row, db.findMission missionId = some row →
    ∃ result, db.missionState missionId = .ok result

/-! ### Texts that the readers accept -/

/-- A text that `_text` of the contracts accepts. -/
def isClean (limit : Nat) (value : PyStr) : Bool :=
  !isBlank value && value.length ≤ limit && !value.any isControl

theorem textField_eq_ok {limit : Nat} {name value : PyStr} :
    textField limit name value = .ok () ↔ isClean limit value = true := by
  rw [textField, raiseIf_eq_ok, isClean]
  simp only [Bool.or_eq_true, decide_eq_true_eq, not_or, not_lt, Bool.and_eq_true,
    Bool.not_eq_true', Bool.not_eq_true]

theorem isClean_mono {limit more : Nat} {value : PyStr} (clean : isClean limit value = true)
    (le : limit ≤ more) : isClean more value = true := by
  simp only [isClean, Bool.and_eq_true, decide_eq_true_eq] at clean ⊢
  exact ⟨⟨clean.1.1, clean.1.2.trans le⟩, clean.2⟩

theorem isClean_of_visible {limit : Nat} {value : PyStr} (nonempty : value ≠ [])
    (short : value.length ≤ limit)
    (visible : ∀ c ∈ value, c.isSpace = false ∧ isControl c = false) :
    isClean limit value = true := by
  have notBlank : isBlank value = false := by
    cases value with
    | nil => exact absurd rfl nonempty
    | cons c rest => simp [isBlank, (visible c (by simp)).1]
  have noControl : value.any isControl = false := by
    rw [List.any_eq_false]
    intro c member
    rw [(visible c member).2]
    exact Bool.false_ne_true
  simp [isClean, notBlank, noControl, short]

theorem visible_of_isLowerHex {c : CodePoint} (hex : c.isLowerHex = true) :
    c.isSpace = false ∧ isControl c = false := by
  simp only [CodePoint.isLowerHex, CodePoint.isAsciiDigit, Bool.or_eq_true, Bool.and_eq_true,
    decide_eq_true_eq] at hex
  simp only [CodePoint.isSpace, isControl, Bool.or_eq_false_iff, Bool.and_eq_false_iff,
    decide_eq_false_iff_not, beq_eq_false_iff_ne, ne_eq]
  omega

theorem sha256Field_of_isLowerHexOf {name value : PyStr} (hex : isLowerHexOf 64 value = true) :
    sha256Field name value = .ok () := by
  have shape := hex
  rw [isLowerHexOf, Bool.and_eq_true, beq_iff_eq, List.all_eq_true] at shape
  have nonempty : value ≠ [] := by
    rintro rfl
    simp at shape
  have clean : isClean 64 value = true := by
    apply isClean_of_visible nonempty shape.1.le
    intro c member
    exact visible_of_isLowerHex (shape.2 c member)
  rw [sha256Field, textField_eq_ok.mpr clean, ok_bind]
  exact raiseIf_eq_ok.mpr (not_not.mpr hex)

theorem isClean_isoformatUtc (time : DateTime) : isClean 4096 time.isoformatUtc = true := by
  apply isClean_of_visible
  · rw [IsoFormat.isoformatUtc_eq]
    simp
  · have clock : (IsoFormat.clockText time).length ≤ 15 := by
      rw [IsoFormat.clockText]
      split <;> simp [length_padDigits]
    rw [IsoFormat.isoformatUtc_eq]
    simp only [List.length_append, List.length_cons, length_padDigits]
    have zone : (py "+00:00").length = 6 := rfl
    omega
  · apply IsoFormat.forall_mem_isoformatUtc
    · intro c digit
      exact visible_of_isLowerHex (by rw [CodePoint.isLowerHex, digit, Bool.true_or])
    · decide

/-! ### What the writers promise -/

/-- The columns of a mission row that its specification does not fix. -/
structure ReadableRow (row : MissionRow) : Prop where
  updatedAt : ∃ time : DateTime, row.updatedAt = time.isoformatUtc
  generation : 0 ≤ row.generation
  dispatchId : ∀ value ∈ row.dispatchId, isLowerHexOf 64 value = true
  fencingToken : ∀ value ∈ row.fencingToken, isLowerHexOf 64 value = true
  running : row.state = .running →
    row.dispatchId ≠ none ∧ row.fencingToken ≠ none ∧ 1 ≤ row.generation
  terminal : row.state.isTerminal = true → row.terminalEvidenceRef ≠ none

structure Readable (db : Database) : Prop where
  rows : ∀ row ∈ db.missions, ReadableRow row
  eventHead : isLowerHexOf 64 db.eventHead = true

theorem IsEvent.isLowerHexOf_eventDigest {db : Database} {eventType : EventType}
    {missionId : Option PyStr} {payload : List (PyStr × Json)} {observedAt : PyStr}
    {event : EventRow} (isEvent : IsEvent db eventType missionId payload observedAt event) :
    isLowerHexOf 64 event.eventDigest = true := by
  have digested := isEvent.digest
  simp only [eventDigestOf, bind_eq_ok, pure_eq_ok] at digested
  obtain ⟨bytes, -, isDigest⟩ := digested
  rw [← isDigest]
  exact isLowerHexOf_sha256 bytes

theorem readable_emptyDatabase (coordinatorId : PyStr) : Readable (emptyDatabase coordinatorId) where
  rows := by simp [emptyDatabase]
  eventHead := by
    have zeros : isLowerHexOf 64 zeroDigest = true := by decide
    exact zeros

variable {spec : FleetCoordinationSpec}

theorem RegisterStep.exists_readableRow {db after : Database} {digest now : PyStr}
    (step : RegisterStep db spec digest now after) :
    ∃ row, ReadableRow row ∧ row.terminalEvidenceRef = none ∧
      after.missions = db.missions ++ [row] := by
  obtain ⟨inserted, event, insertedEq, isEvent, rfl⟩ := step.applied
  simp only [Database.insertMission, bind_eq_ok, pure_eq_ok, raiseIf_eq_ok] at insertedEq
  obtain ⟨scopeJson, -, dependenciesJson, -, evidenceJson, -, _, -, rfl⟩ := insertedEq
  refine ⟨_, ?_, rfl, rfl⟩
  constructor
  case updatedAt => exact step.current.written
  all_goals simp [registeredRow, MissionState.isTerminal]

theorem readable_of_registerStep {db after : Database} {digest now : PyStr} (holds : Readable db)
    (step : RegisterStep db spec digest now after) :
    Readable after := by
  refine ⟨?_, ?_⟩
  · obtain ⟨added, readable, -, missions⟩ := step.exists_readableRow
    rw [missions]
    intro row member
    rcases List.mem_append.mp member with old | new
    · exact holds.rows row old
    · obtain rfl := List.mem_singleton.mp new
      exact readable
  · obtain ⟨inserted, event, -, isEvent, rfl⟩ := step.applied
    exact isEvent.isLowerHexOf_eventDigest

theorem readable_of_dispatchStep {db after : Database} {context : PlanContext} {row : MissionRow}
    {dispatch : FleetDispatch} (holds : Readable db)
    (step : DispatchStep db context row dispatch after) : Readable after := by
  obtain ⟨idBytes, fenceBytes, -, -, shape⟩ := exists_bytes_of_buildDispatch step.built
  have dispatchId : dispatch.dispatchId = sha256 idBytes := by rw [shape]
  have fencingToken : dispatch.fencingToken = sha256 fenceBytes := by rw [shape]
  have started := (holds.rows row step.present).generation
  have next := step.identity.2
  refine ⟨?_, ?_⟩
  · intro final member
    rw [step.tables.1] at member
    rcases mem_updateMission member with ⟨old, oldMember, -, rfl⟩ | ⟨kept, -⟩
    · constructor
      case updatedAt => exact step.current.written
      case dispatchId =>
        simp [MissionRow.dispatched, dispatchId, isLowerHexOf_sha256]
      case fencingToken =>
        simp [MissionRow.dispatched, fencingToken, isLowerHexOf_sha256]
      all_goals
        simp only [MissionRow.dispatched, MissionState.isTerminal]
        grind
    · exact holds.rows final kept
  · obtain ⟨leases, event, -, isEvent, rfl⟩ := step.applied
    exact isEvent.isLowerHexOf_eventDigest

theorem readable_of_commitStep {db after : Database} {context : PlanContext}
    {selected : List FleetDispatch} (holds : Readable db)
    (step : CommitStep db context selected after) : Readable after := by
  refine ⟨?_, ?_⟩
  · rw [step.frame.1]
    exact holds.rows
  · have committed := step.committed
    simp only [Database.commitPlan, bind_eq_ok, pure_eq_ok] at committed
    obtain ⟨_, -, _, -, _, -, _, -, logged, loggedEq, rfl⟩ := committed
    obtain ⟨event, isEvent, rfl⟩ := exists_event_of_appendEvent loggedEq
    exact isEvent.isLowerHexOf_eventDigest

theorem ReadableRow.change {row : MissionRow} (readable : ReadableRow row) (ending : Ending)
    {now : PyStr} (written : ∃ time : DateTime, now = time.isoformatUtc) :
    ReadableRow (ending.change now row) := by
  have stopped := ending.state_ne_running
  cases ending with
  | requeue evidenceRef =>
    exact ⟨written, readable.generation, readable.dispatchId, readable.fencingToken, nofun,
      nofun⟩
  | terminal state isTerminal evidenceRef =>
    exact ⟨written, readable.generation, readable.dispatchId, readable.fencingToken,
      fun running => absurd running stopped, fun _ => Option.some_ne_none evidenceRef⟩

theorem readable_of_endStep {db after : Database} {row : MissionRow} {dispatchId now : PyStr}
    {ending : Ending} (holds : Readable db) (step : EndStep db row dispatchId ending now after) :
    Readable after := by
  obtain ⟨event, isEvent, rfl⟩ := step.applied
  refine ⟨?_, isEvent.isLowerHexOf_eventDigest⟩
  intro final member
  rcases mem_updateMission member with ⟨old, oldMember, -, rfl⟩ | ⟨kept, -⟩
  · exact (holds.rows old oldMember).change ending step.current.written
  · exact holds.rows final kept

theorem storeInvariant_readable : StoreInvariant fun db _ => LeaseInvariant db ∧ Readable db where
  distinct := fun holds => holds.1.distinct
  register := fun step holds =>
    ⟨storeInvariant_leaseInvariant.register step holds.1, readable_of_registerStep holds.2 step⟩
  dispatch := fun _ step holds =>
    ⟨leaseInvariant_of_dispatchStep holds.1 step, readable_of_dispatchStep holds.2 step⟩
  commit := fun step holds =>
    ⟨holds.1.of_tables step.frame.1 step.frame.2.1, readable_of_commitStep holds.2 step⟩
  finish := fun step holds =>
    ⟨storeInvariant_leaseInvariant.finish step holds.1, readable_of_endStep holds.2 step⟩

/-! ### Reading a row -/

theorem missionStateOf_eq_ok {row : MissionRow} {state : FleetMissionState} :
    missionStateOf row = .ok state ↔ row.toState.validate = .ok () ∧ row.toState = state := by
  rw [missionStateOf, bind_eq_ok]
  constructor
  · rintro ⟨_, valid, same⟩
    exact ⟨valid, pure_eq_ok.mp same⟩
  · rintro ⟨valid, same⟩
    exact ⟨(), valid, pure_eq_ok.mpr same⟩

theorem isLowerHexOf_digest {digest : PyStr} (digested : spec.digest = .ok digest) :
    isLowerHexOf 64 digest = true := by
  simp only [FleetCoordinationSpec.digest, bind_eq_ok, pure_eq_ok] at digested
  obtain ⟨_, -, bytes, -, rfl⟩ := digested
  exact isLowerHexOf_sha256 bytes

theorem optionalField_eq_ok {check : PyStr → Except PyError Unit} {value : Option PyStr} :
    optionalField check value = .ok () ↔ ∀ text ∈ value, check text = .ok () := by
  cases value with
  | none => simp [optionalField]
  | some text => simp [optionalField]

theorem validate_toState {row : MissionRow} (readable : ReadableRow row)
    (stores : StoresSpec row spec) :
    row.toState.validate = .ok () ↔
      ∀ ref ∈ row.terminalEvidenceRef, isClean 4096 ref = true := by
  have valid := stores.valid
  simp only [FleetCoordinationSpec.validate, bind_eq_ok] at valid
  obtain ⟨_, missionId, _, droneId, -⟩ := valid
  rw [← stores.missionId] at missionId
  rw [← stores.droneId] at droneId
  obtain ⟨time, updatedAt⟩ := readable.updatedAt
  have updatedOk : textField 4096 (py "updated_at") row.updatedAt = .ok () := by
    rw [updatedAt]
    exact textField_eq_ok.mpr (isClean_isoformatUtc time)
  have dispatchOk : optionalField (sha256Field (py "dispatch_id")) row.dispatchId = .ok () :=
    optionalField_eq_ok.mpr fun _ member => sha256Field_of_isLowerHexOf
      (readable.dispatchId _ member)
  have fencingOk : optionalField (sha256Field (py "fencing_token")) row.fencingToken = .ok () :=
    optionalField_eq_ok.mpr fun _ member => sha256Field_of_isLowerHexOf
      (readable.fencingToken _ member)
  have fenced : ¬ (row.state = .running ∧ (row.dispatchId.getD [] = [] ∨
      row.fencingToken.getD [] = [] ∨ row.generation < 1)) := by
    rintro ⟨running, missing⟩
    obtain ⟨hasDispatch, hasToken, started⟩ := readable.running running
    have nonempty : ∀ {column : Option PyStr}, column ≠ none →
        (∀ value ∈ column, isLowerHexOf 64 value = true) → column.getD [] ≠ [] := by
      intro column present hex empty
      cases column with
      | none => exact present rfl
      | some value =>
        rw [Option.getD_some] at empty
        subst empty
        exact absurd (hex [] rfl) (by decide)
    rcases missing with empty | empty | negative
    · exact nonempty hasDispatch readable.dispatchId empty
    · exact nonempty hasToken readable.fencingToken empty
    · omega
  have evidence : ¬ (row.state.isTerminal = true ∧ row.terminalEvidenceRef = none) :=
    fun missing => readable.terminal missing.1 missing.2
  have counted : ¬ row.generation < 0 := not_lt.mpr readable.generation
  simp only [FleetMissionState.validate, MissionRow.toState, missionId, droneId,
    sha256Field_of_isLowerHexOf (isLowerHexOf_digest stores.digest), dispatchOk, fencingOk,
    updatedOk, raiseIf, fenced, evidence, counted, ok_bind, if_false]
  rw [bind_eq_ok]
  have evidenceOk : optionalField (textField 4096 (py "terminal_evidence_ref"))
      row.terminalEvidenceRef = .ok () ↔
        ∀ ref ∈ row.terminalEvidenceRef, isClean 4096 ref = true := by
    rw [optionalField_eq_ok]
    simp only [textField_eq_ok]
  rw [← evidenceOk]
  constructor
  · rintro ⟨_, accepted, _⟩
    exact accepted
  · exact fun accepted => ⟨(), accepted, rfl⟩

theorem validate_toLease {row : MissionRow} {dispatchId : PyStr} (readable : ReadableRow row)
    (stores : StoresSpec row spec) (running : row.state = .running)
    (active : row.dispatchId = some dispatchId) {lease : LeaseRow}
    (member : lease ∈ missionLeases row spec.writeScope dispatchId) :
    lease.toLease.validate = .ok () := by
  have valid := stores.valid
  simp only [FleetCoordinationSpec.validate, bind_eq_ok] at valid
  obtain ⟨_, missionId, _, droneId, _, repository, _, -, _, -, _, branch, _, scope, -⟩ := valid
  rw [← stores.missionId] at missionId
  rw [← stores.droneId] at droneId
  rw [← stores.repository] at repository
  rw [← stores.branch] at branch
  obtain ⟨time, updatedAt⟩ := readable.updatedAt
  have acquired : textField 4096 (py "acquired_at") row.updatedAt = .ok () := by
    rw [updatedAt]
    exact textField_eq_ok.mpr (isClean_isoformatUtc time)
  have hex : isLowerHexOf 64 dispatchId = true := readable.dispatchId dispatchId active
  have counted : ¬ row.generation < 1 := not_lt.mpr (readable.running running).2.2
  rcases List.mem_cons.mp member with rfl | later
  · have clean : isClean 4096 row.branch = true := by
      simp only [branchField, bind_eq_ok] at branch
      obtain ⟨_, short, -⟩ := branch
      exact isClean_mono (textField_eq_ok.mp short) (by norm_num)
    simp only [FleetLease.validate, FleetLease.validateResource, LeaseRow.toLease, missionId,
      droneId, textField_eq_ok.mpr clean, acquired, sha256Field_of_isLowerHexOf hex, repository,
      raiseIf, counted, branch, ok_bind, if_false]
  · obtain ⟨path, inScope, rfl⟩ := List.mem_map.mp later
    simp only [writeScopeField, stringTuple, bind_eq_ok] at scope
    obtain ⟨_, ⟨_, -, _, texts, -⟩, safe⟩ := scope
    have clean : textField 4096 (py "write_scope") path = .ok () :=
      forM_eq_ok.mp texts path inScope
    have resource : textField 4096 (py "resource") path = .ok () :=
      textField_eq_ok.mpr (textField_eq_ok.mp clean)
    have single : writeScopeField [path] = .ok () := by
      have safePath := forM_eq_ok.mp safe path inScope
      rw [raiseIf_eq_ok] at safePath
      simp [writeScopeField, stringTuple, raiseIf, clean, safePath]
    simp only [FleetLease.validate, FleetLease.validateResource, LeaseRow.toLease, missionId,
      droneId, resource, acquired, sha256Field_of_isLowerHexOf hex, repository,
      raiseIf, counted, single, ok_bind, if_false]

/-! ### Reading a database -/

section Reads

variable {db : Database} {specs : List FleetCoordinationSpec}

theorem isEncodable_missionId {row : MissionRow} {spec : FleetCoordinationSpec}
    (stores : StoresSpec row spec) : isEncodable row.missionId = true := by
  have digested := stores.digest
  simp only [FleetCoordinationSpec.digest, FleetCoordinationSpec.canonicalDict, bind_eq_ok,
    pure_eq_ok] at digested
  obtain ⟨_, ⟨_, -, rfl⟩, bytes, written, -⟩ := digested
  rw [stores.missionId]
  exact isEncodable_of_mem_str (py "mission_id") (by simp [FleetCoordinationSpec.fields]) written

def Database.view (db : Database) : FleetCoordinationSnapshot where
  coordinatorId := db.coordinatorId
  revision := db.revision
  eventHead := db.eventHead
  missions := db.sortedMissions.map MissionRow.toState
  activeLeases := db.sortedLeases.map LeaseRow.toLease

def EvidenceClean (db : Database) : Prop :=
  ∀ row ∈ db.missions, ∀ ref ∈ row.terminalEvidenceRef, isClean 4096 ref = true

variable (holds : Coherent db specs []) (readable : Readable db)
include holds readable

theorem evidenceClean_iff :
    EvidenceClean db ↔ ∀ row ∈ db.missions, row.toState.validate = .ok () := by
  apply forall₂_congr
  intro row member
  obtain ⟨spec, -, stores⟩ := holds.exists_spec member
  exact (validate_toState (readable.rows row member) stores).symm

omit readable in
theorem missionState_eq_ok {row : MissionRow} (member : row ∈ db.missions)
    (valid : row.toState.validate = .ok ()) :
    db.missionState row.missionId = .ok row.toState := by
  obtain ⟨spec, -, stores⟩ := holds.exists_spec member
  have encoded : encodeUtf8 row.missionId = .ok ⟨row.missionId, isEncodable_missionId stores⟩ :=
    encodeUtf8_eq_ok.mpr rfl
  have found := findMission_of_mem holds.leases.distinct member
  rw [Database.missionState, Database.requireMission, encoded, ok_bind, found]
  exact missionStateOf_eq_ok.mpr ⟨valid, rfl⟩

theorem validate_of_mem_leases {lease : LeaseRow} (member : lease ∈ db.leases) :
    lease.toLease.validate = .ok () := by
  obtain ⟨row, rowMember, same⟩ := List.mem_map.mp (holds.leases.registered lease member)
  obtain ⟨spec, -, stores⟩ := holds.exists_spec rowMember
  have owned : lease ∈ db.leasesOwnedBy row.missionId := by
    rw [Database.leasesOwnedBy, List.mem_filter, decide_eq_true_eq]
    exact ⟨member, same.symm⟩
  by_cases running : row.state = .running
  · obtain ⟨dispatchId, scope, active, stored, leases⟩ :=
      holds.leases.running row rowMember running
    rw [stores.writeScope] at stored
    rw [leases, ← Except.ok.inj stored] at owned
    exact validate_toLease (readable.rows row rowMember) stores running active owned
  · rw [holds.leases.idle row rowMember running] at owned
    cases owned

theorem activeLeases_eq_ok : db.activeLeases = .ok (db.sortedLeases.map LeaseRow.toLease) := by
  apply mapM_eq_ok_map
  intro lease member
  have stored : lease ∈ db.leases := (List.mem_insertionSort _).mp member
  rw [leaseOf, validate_of_mem_leases holds readable stored]
  rfl

omit holds readable in
theorem readMissions_eq_ok (valid : ∀ row ∈ db.missions, row.toState.validate = .ok ()) :
    db.readMissions = .ok (db.sortedMissions.map MissionRow.toState) := by
  apply mapM_eq_ok_map
  intro row member
  have stored : row ∈ db.missions := (List.mem_insertionSort _).mp member
  exact missionStateOf_eq_ok.mpr ⟨valid row stored, rfl⟩

omit holds readable in
theorem runAlone_snapshot :
    (PyProg.runAlone snapshot db).2 = (do
      let missions ← db.readMissions
      let leases ← db.activeLeases
      buildSnapshot db.coordinatorId db.revision db.eventHead missions leases) := by
  simp only [snapshot, PyProg.runAlone_bind, PyProg.runAlone_read, PyProg.runAlone_lift]
  cases db.readMissions with
  | error error => rfl
  | ok missions =>
    dsimp only
    cases db.activeLeases with
    | error error => rfl
    | ok leases => rfl

theorem validate_view (valid : ∀ row ∈ db.missions, row.toState.validate = .ok ())
    (clean : isClean 4096 db.coordinatorId = true) : db.view.validate = .ok () := by
  have missionsOk : forM (db.sortedMissions.map MissionRow.toState) FleetMissionState.validate =
      .ok () := by
    apply forM_eq_ok.mpr
    intro state member
    obtain ⟨row, inTable, rfl⟩ := List.mem_map.mp member
    exact valid row ((List.mem_insertionSort _).mp inTable)
  have leasesOk : forM (db.sortedLeases.map LeaseRow.toLease) FleetLease.validate = .ok () := by
    apply forM_eq_ok.mpr
    intro lease member
    obtain ⟨row, inTable, rfl⟩ := List.mem_map.mp member
    exact validate_of_mem_leases holds readable ((List.mem_insertionSort _).mp inTable)
  have distinct : ((db.sortedMissions.map MissionRow.toState).map
      FleetMissionState.missionId).Nodup := by
    rw [List.map_map]
    have sorted := List.perm_insertionSort
      (fun first second : MissionRow => first.missionId ≤ second.missionId) db.missions
    exact (sorted.map MissionRow.missionId).nodup_iff.mpr holds.leases.distinct
  simp only [FleetCoordinationSnapshot.validate, Database.view, textField_eq_ok.mpr clean,
    sha256Field_of_isLowerHexOf readable.eventHead, missionsOk, leasesOk, ok_bind]
  exact raiseIf_eq_ok.mpr (not_not.mpr distinct)

theorem readsReturn_iff :
    ReadsReturn db ↔ isClean 4096 db.coordinatorId = true ∧ EvidenceClean db := by
  rw [evidenceClean_iff holds readable]
  constructor
  · intro reads
    obtain ⟨result, returned⟩ := reads.snapshot
    rw [runAlone_snapshot, bind_eq_ok] at returned
    obtain ⟨missions, read, rest⟩ := returned
    rw [activeLeases_eq_ok holds readable, ok_bind] at rest
    simp only [buildSnapshot, FleetCoordinationSnapshot.validate, bind_eq_ok] at rest
    obtain ⟨_, ⟨_, coordinator, -⟩, -⟩ := rest
    refine ⟨textField_eq_ok.mp coordinator, ?_⟩
    intro row member
    obtain ⟨state, -, isState⟩ := exists_right_of_forall₂ (mapM_eq_ok.mp read)
      ((List.mem_insertionSort _).mpr member)
    exact (missionStateOf_eq_ok.mp isState).1
  · rintro ⟨clean, valid⟩
    refine ⟨?_, ⟨_, activeLeases_eq_ok holds readable⟩, ?_⟩
    · refine ⟨db.view, ?_⟩
      have accepted : db.view.validate = .ok () := validate_view holds readable valid clean
      rw [runAlone_snapshot, readMissions_eq_ok valid, ok_bind,
        activeLeases_eq_ok holds readable, ok_bind, buildSnapshot]
      rw [Database.view] at accepted
      rw [accepted]
      rfl
    · intro missionId row found
      obtain ⟨member, rfl⟩ := findMission_eq_some found
      exact ⟨_, missionState_eq_ok holds member (valid row member)⟩

end Reads

/-! ### Clean evidence -/

def FleetCall.OffersClean : FleetCall → Prop
  | .recordTerminal _ _ _ _ _ evidenceRef => isClean 4096 evidenceRef = true
  | _ => True

theorem EvidenceClean.dispatchChain {context : PlanContext} {db after : Database}
    {issued : List FleetDispatch} (clean : EvidenceClean db)
    (chain : DispatchChain context db issued after) : EvidenceClean after := by
  induction chain with
  | nil db => exact clean
  | cons step later ih =>
    apply ih
    intro final member
    rw [step.tables.1] at member
    rcases mem_updateMission member with ⟨old, oldMember, -, rfl⟩ | ⟨kept, -⟩
    · exact nofun
    · exact clean final kept

theorem EvidenceClean.endStep {db after : Database} {row : MissionRow} {dispatchId now : PyStr}
    {ending : Ending} (clean : EvidenceClean db)
    (step : EndStep db row dispatchId ending now after)
    (offered : ∀ old, ∀ ref ∈ (ending.change now old).terminalEvidenceRef,
      isClean 4096 ref = true) : EvidenceClean after := by
  obtain ⟨event, -, rfl⟩ := step.applied
  intro final member
  rcases mem_updateMission member with ⟨old, -, -, rfl⟩ | ⟨kept, -⟩
  · exact offered old
  · exact clean final kept

theorem EvidenceClean.stepCall {db : Database}
    (distinct : (db.missions.map MissionRow.missionId).Nodup) (clean : EvidenceClean db)
    {call : FleetCall} (offers : call.OffersClean) : EvidenceClean (stepCall db call) := by
  rw [FleetCoordination.stepCall]
  split
  · rename_i after applied
    cases call with
    | registerMission depth clock spec =>
      rcases exists_registerStep applied with rfl | ⟨digest, now, step⟩
      · exact clean
      · obtain ⟨added, -, noEvidence, missions⟩ := step.exists_readableRow
        rw [EvidenceClean, missions]
        intro row member
        rcases List.mem_append.mp member with old | new
        · exact clean row old
        · obtain rfl := List.mem_singleton.mp new
          rw [noEvidence]
          simp
    | plan clock request =>
      rw [FleetCall.apply, map_eq_ok] at applied
      obtain ⟨⟨planned, dispatches⟩, plannedEq, rfl⟩ := applied
      rcases exists_dispatchChain_of_plan plannedEq distinct with
        ⟨rfl, -⟩ | ⟨context, middle, -, -, chain, commit⟩
      · exact clean
      · rw [EvidenceClean, commit.frame.1]
        exact clean.dispatchChain chain
    | requeue clock missionId dispatchId fencingToken evidenceRef =>
      rcases exists_endStep_of_requeue applied with rfl | ⟨row, now, step⟩
      · exact clean
      · exact clean.endStep step fun _ ref stored => by cases stored
    | recordTerminal clock missionId dispatchId fencingToken terminalState evidenceRef =>
      rcases exists_endStep_of_recordTerminal applied with rfl | ⟨row, _, _, now, step⟩
      · exact clean
      · apply clean.endStep step
        intro _ ref stored
        rwa [← Option.some.inj stored]
  · exact clean

theorem evidenceClean_runCalls {db : Database} (holds : LeaseInvariant db)
    (clean : EvidenceClean db) {calls : List FleetCall}
    (offers : ∀ call ∈ calls, call.OffersClean) : EvidenceClean (runCalls db calls) := by
  induction calls generalizing db with
  | nil => exact clean
  | cons call calls ih =>
    rw [List.forall_mem_cons] at offers
    exact ih (storeInvariant_leaseInvariant.stepCall call holds)
      (clean.stepCall holds.distinct offers.1) offers.2

/-! ### Reads after a run -/

theorem readsReturn_runCalls (coordinatorId : PyStr) (calls : List FleetCall) :
    ReadsReturn (runCalls (emptyDatabase coordinatorId) calls) ↔
      isClean 4096 coordinatorId = true ∧
        EvidenceClean (runCalls (emptyDatabase coordinatorId) calls) := by
  have coherent : CoherentFor coordinatorId (runCalls (emptyDatabase coordinatorId) calls) [] :=
    (storeInvariant_coherentFor coordinatorId).runCalls calls
      ⟨rfl, [], coherent_emptyDatabase coordinatorId⟩
  obtain ⟨same, specs, holds⟩ := coherent
  obtain ⟨-, readable⟩ := storeInvariant_readable.runCalls calls
    ⟨leaseInvariant_emptyDatabase coordinatorId, readable_emptyDatabase coordinatorId⟩
  rw [readsReturn_iff holds readable, same]

/-- After every run all reads return exactly when the readers accept the name of
the coordinator and the stored evidence of every terminal mission; they do
after every run whose coordinator and whose offered evidence are clean. -/
theorem reads_after_run (coordinatorId : PyStr) (calls : List FleetCall) :
    (ReadsReturn (runCalls (emptyDatabase coordinatorId) calls) ↔
      isClean 4096 coordinatorId = true ∧
        ∀ row ∈ (runCalls (emptyDatabase coordinatorId) calls).missions,
          ∀ ref ∈ row.terminalEvidenceRef, isClean 4096 ref = true) ∧
    (isClean 4096 coordinatorId = true → (∀ call ∈ calls, call.OffersClean) →
      ReadsReturn (runCalls (emptyDatabase coordinatorId) calls)) := by
  refine ⟨readsReturn_runCalls coordinatorId calls, ?_⟩
  intro clean offers
  have empty : EvidenceClean (emptyDatabase coordinatorId) := by simp [EvidenceClean, emptyDatabase]
  have evidence := evidenceClean_runCalls (leaseInvariant_emptyDatabase coordinatorId) empty offers
  exact (readsReturn_runCalls coordinatorId calls).mpr ⟨clean, evidence⟩

/-- A mission that is registered, dispatched, and ended with evidence that
holds a line break. -/
def lineBreakCalls : List FleetCall :=
  let clock : ClockReading := .ok (.aware ⟨2026, 1, 2, 3, 4, 5, 0, validDateTime_survey⟩ 0)
  let baseline := List.replicate 40 0x61
  [.registerMission 4 clock ⟨py "survey", py "drone-1", py "core/api", baseline,
      List.replicate 40 0x62, py "drone/survey", [py "docs"], [], [py "ticket:1"]⟩,
    .plan clock ⟨py "plan-1", py "fleet", [(py "core/api", baseline)], 1⟩,
    .recordTerminal clock (py "survey")
      (py "8947c7deb4a72075f63de5c6499a88b009125e5ac8b96397b6975fa72471286a")
      (py "836758cca3d250567fc4b5dcc63fef3d214a28151a0318f3a2060f8a4df6f3d4")
      (py "DONE") (py "line\nbreak")]

/-- The store accepts the evidence, and then a read fails. -/
theorem not_readsReturn_lineBreak :
    ¬ ReadsReturn (runCalls (emptyDatabase (py "fleet")) lineBreakCalls) := by
  intro reads
  have evidence := ((readsReturn_runCalls _ _).mp reads).2
  have stored : ((runCalls (emptyDatabase (py "fleet")) lineBreakCalls).missions.any fun row =>
      row.terminalEvidenceRef == some (py "line\nbreak")) = true := by
    delta runCalls stepCall FleetCall.apply Database.registerMission Database.registerNew
      Database.plan Database.planNew Database.planCached Database.commitPlan planLoop planLoop._f
      dispatchMission buildDispatch Database.recordTerminal Database.recordTerminalRow
      Database.endDispatch Database.appendEvent eventDigestOf FleetCoordinationSpec.digest
      FleetPlanRequest.digest
    rw [Sha256.sha256_eq_evalText]
    decide +kernel
  obtain ⟨row, member, same⟩ := List.any_eq_true.mp stored
  have clean := evidence row member (py "line\nbreak") (beq_iff_eq.mp same)
  exact absurd clean (by decide)

end FleetCoordination

end CyberLion
