import CyberLion.PyConvert
import CyberLion.PyDict
import CyberLion.SqlStore

/-!
# Deleting the records of a mission

`mission_lifecycle_classification`, `mission_delete_preview` and
`delete_mission_records` of `tools/lion_mission_lifecycle_db.py`.  The deletion
reads the names of the tables and of their columns from the database itself, so
the database is a `SqlStore`; `MissionStore` adds what the migrations guarantee
about the tables that the code names.
-/

namespace CyberLion

namespace MissionLifecycle

open PyLib

/-- `missions`. -/
def missionsTable : PyStr := py "missions"

/-- `mission_meta`. -/
def metaTable : PyStr := py "mission_meta"

/-- `saas_session_bindings`. -/
def bindingsTable : PyStr := py "saas_session_bindings"

/-- `mission_dual_receipts`. -/
def dualReceipts : PyStr := py "mission_dual_receipts"

/-- `mission_dual_evaluations`. -/
def dualEvaluations : PyStr := py "mission_dual_evaluations"

def missionId : PyStr := py "mission_id"

def requestId : PyStr := py "request_id"

def bindingScope : PyStr := py "binding_scope"

def globalChannel : PyStr := py "GLOBAL_SUPERVISOR_CHANNEL"

def readColumns : List (PyStr × List PyStr) :=
  [(missionsTable, [missionId, py "adapter", py "state", py "spec_digest"]),
    (py "mission_process_specs", [missionId, py "authority_state"]),
    (py "mission_execution_drivers", [missionId, py "state"]),
    (py "mission_execution_assignments", [missionId, py "state"]),
    (py "commands", [missionId, py "status"]),
    (dualReceipts, [requestId]),
    (dualEvaluations, [requestId, missionId]),
    (bindingsTable, [missionId, bindingScope])]

/-- `mission_meta(key,value,updated_at)` and the table of SQLite's own. -/
def systemColumns : List (PyStr × List PyStr) :=
  [(metaTable, [py "key", py "value", py "updated_at"]),
    (py "sqlite_sequence", [py "name", py "seq"])]

structure Migrated (store : SqlStore) : Prop where
  unique : store.names.Nodup
  present : ∀ name ∈ [missionsTable, py "mission_process_specs", metaTable], name ∈ store.names
  columned : ∀ table ∈ store, ∀ column ∈ (readColumns.lookup table.name).getD [],
    column ∈ table.columns
  system : ∀ table ∈ store, ∀ columns, systemColumns.lookup table.name = some columns →
    table.columns = columns
  bindingScoped : ∀ table ∈ store, table.name = bindingsTable → ∀ row ∈ table.rows,
    row.get bindingScope ≠ .null

/-- A change of the rows that keeps the tables and adds no binding. -/
structure KeepsTables (change : SqlTable → SqlTable) : Prop where
  name : ∀ table, (change table).name = table.name
  columns : ∀ table, (change table).columns = table.columns
  bindings : ∀ table, table.name = bindingsTable → ∀ row ∈ (change table).rows, row ∈ table.rows

theorem Migrated.map {store : SqlStore} (migrated : Migrated store)
    {change : SqlTable → SqlTable} (keeps : KeepsTables change) :
    Migrated (List.map change store) := by
  have names : SqlStore.names (List.map change store) = store.names := by
    rw [SqlStore.names, List.map_map]
    exact List.map_congr_left fun table _ => keeps.name table
  constructor
  · rw [names]
    exact migrated.unique
  · rw [names]
    exact migrated.present
  · simp only [List.forall_mem_map, keeps.name, keeps.columns]
    exact migrated.columned
  · simp only [List.forall_mem_map, keeps.name, keeps.columns]
    exact migrated.system
  · simp only [List.forall_mem_map, keeps.name]
    intro table member isBindings row isRow
    exact migrated.bindingScoped table member isBindings row (keeps.bindings table isBindings row isRow)

structure MissionStore where
  tables : SqlStore
  migrated : Migrated tables

namespace MissionStore

variable (store : MissionStore)

/-- `DELETE FROM <name> WHERE ...`. -/
def deleteFrom (name : PyStr) (selected : SqlRow → Bool) : MissionStore where
  tables := store.tables.deleteFrom name selected
  migrated := store.migrated.map
    { name := fun table => by split <;> rfl
      columns := fun table => by split <;> rfl
      bindings := fun table _ row member => by
        split at member
        · exact (SqlTable.mem_deleteWhere.mp member).1
        · exact member }

/-- `INSERT OR REPLACE INTO mission_meta(key,value,updated_at) VALUES(?,?,?)`. -/
def setMeta (key value updatedAt : PyStr) : MissionStore where
  tables := store.tables.insertOrReplace metaTable (py "key")
    [(py "key", .text key), (py "value", .text value), (py "updated_at", .text updatedAt)]
  migrated := store.migrated.map
    { name := fun table => by split <;> rfl
      columns := fun table => by split <;> rfl
      bindings := fun table isBindings row member => by
        split at member
        · rename_i isMeta
          rw [isMeta.1] at isBindings
          exact absurd isBindings (by decide)
        · exact member }

/-- `UPDATE mission_meta SET value=?,updated_at=? WHERE key='focus_mission_id' AND value=?`. -/
def moveFocus (fromId toId updatedAt : PyStr) : MissionStore where
  tables := store.tables.setWhere metaTable
    (fun row => row.holds (py "key") (py "focus_mission_id") && row.holds (py "value") fromId)
    [(py "value", .text toId), (py "updated_at", .text updatedAt)]
  migrated := store.migrated.map
    { name := fun table => by split <;> rfl
      columns := fun table => by split <;> rfl
      bindings := fun table isBindings row member => by
        split at member
        · rename_i isMeta
          rw [isMeta] at isBindings
          exact absurd isBindings (by decide)
        · exact member }

def rowFor (name mission : PyStr) : Option SqlRow :=
  (store.tables.rowsOf name).find? fun row => row.holds missionId mission

end MissionStore

/-! ### The lifecycle of a mission -/

inductive RecordClass
  | historicalPreSchema
  | currentProcessRecord
  | currentCoreOnly
  | recordedObservation
  deriving DecidableEq

/-- What `_source_profile` returns. -/
structure SourceProfile where
  recordClass : RecordClass
  sourceEpoch : PyStr
  sourceStage : PyStr
  sourceSchema : PyStr
  compatibilityNote : PyStr

/-- `LEGACY_OBSERVATION:`. -/
def legacyMark : PyStr := py "LEGACY_OBSERVATION:"

def sourceProfile (adapter : SqlValue) (hasProcess : Bool) : SourceProfile :=
  let adapter := adapter.strOr (py "UNKNOWN")
  if legacyMark.isPrefixOf adapter then
    let legacyAdapter := adapter.drop legacyMark.length
    { recordClass := .historicalPreSchema
      sourceEpoch := py "UNKNOWN_HISTORICAL_EPOCH"
      sourceStage := py "PRE_MISSION_PROCESS_SCHEMA:" ++
        if legacyAdapter = [] then py "UNKNOWN" else legacyAdapter
      sourceSchema := py "legacy.run.payload/v1"
      compatibilityNote := py "Mission was recorded before the canonical mission-process schema" ++
        py " existed. Missing process fields are historical absence, not refresh failure." }
  else if hasProcess then
    { recordClass := .currentProcessRecord
      sourceEpoch := py "EPOCH3_CLOSURE"
      sourceStage := py "MISSION_PROCESS_SCHEMA_V1"
      sourceSchema := py "lion.mission-process/v1"
      compatibilityNote := py "Mission has canonical process metadata." }
  else
    { recordClass := .currentCoreOnly
      sourceEpoch := py "EPOCH3_CLOSURE"
      sourceStage := py "MISSION_CORE_SCHEMA_WITHOUT_PROCESS_RECORD"
      sourceSchema := py "lion.mission-core/v1"
      compatibilityNote := py "Core mission identity exists, but no process record was" ++
        py " materialized for this mission." }

inductive LifecycleClass
  | legacyHistory
  | superseded
  | currentExecutable
  | currentTerminal
  | currentNonexecuting
  | unknown
  deriving DecidableEq

/-- What `mission_lifecycle_classification` returns. -/
structure Lifecycle where
  missionId : PyStr
  lifecycleClass : LifecycleClass
  recordClass : RecordClass
  operational : Bool
  historical : Bool
  legacy : Bool
  executionControlsAllowed : Bool
  historyReason : PyStr
  authorityState : Option PyStr
  driverState : Option PyStr
  recordedState : SqlValue
  adapter : SqlValue

/-- `str(row[column] if row else '')`. -/
def columnStr (row : Option SqlRow) (column : PyStr) : PyStr :=
  match row with
  | none => []
  | some row =>
    match row.get column with
    | .null => py "None"
    | .integer value => intText value
    | .text value => value

/-- `text or None`. -/
def orNone (text : PyStr) : Option PyStr :=
  if text = [] then none else some text

def classify (legacy superseded currentAuthority activeDriver : Bool) (state : PyStr) :
    LifecycleClass × PyStr :=
  if legacy then (.legacyHistory, py "LEGACY_OBSERVATION_SOURCE_STAGE")
  else if superseded then (.superseded, py "MISSION_OR_PROCESS_AUTHORITY_SUPERSEDED")
  else if currentAuthority && activeDriver then
    (.currentExecutable, py "CURRENT_AUTHORITY_AND_ACTIVE_DRIVER")
  else if state ∈ [py "COMPLETE", py "COMPLETED", py "STOPPED", py "FAILED", py "FAIL",
      py "CANCELLED"] then
    (.currentTerminal, py "CURRENT_TERMINAL_RECORDED_STATE")
  else if state ∈ [py "REGISTERED", py "AUTHORIZED", py "RUNNING", py "WAITING", py "BLOCKED",
      py "PAUSED", py "CONVERGING"] then
    (.currentNonexecuting, py "CURRENT_RECORD_WITHOUT_ACTIVE_EXECUTION_PROOF")
  else (.unknown, py "LIFECYCLE_COMBINATION_UNKNOWN")

/-- `mission_lifecycle_classification` for the row of the mission. -/
def lifecycleOf (store : MissionStore) (mission : PyStr) (row : SqlRow) : Lifecycle :=
  let process := store.rowFor (py "mission_process_specs") mission
  let driver := store.rowFor (py "mission_execution_drivers") mission
  let adapter := (row.get (py "adapter")).strOr []
  let state := pyUpper ((row.get (py "state")).strOr (py "UNKNOWN"))
  let authority := columnStr process (py "authority_state")
  let driverState := columnStr driver (py "state")
  let profile := sourceProfile (row.get (py "adapter")) process.isSome
  let legacy := legacyMark.isPrefixOf adapter
  let superseded := state = py "SUPERSEDED" || (py "SUPERSEDED").isPrefixOf (pyUpper authority)
  let currentAuthority := decide (authority ∈
    [py "EXPLICIT_USER_ACTIVATION", py "EXPLICIT_EXACT_DIGEST_ACTIVATION"])
  let activeDriver := decide (driverState ∈ [py "ACTIVE", py "WAITING", py "BLOCKED"])
  let (lifecycleClass, reason) := classify legacy superseded currentAuthority activeDriver state
  let recordClass := if legacy then .recordedObservation else profile.recordClass
  let operational := decide (lifecycleClass ∈
    [LifecycleClass.currentExecutable, .currentNonexecuting, .currentTerminal])
  { missionId := mission
    lifecycleClass := lifecycleClass
    recordClass := recordClass
    operational := operational
    historical := lifecycleClass ∈ [LifecycleClass.legacyHistory, .superseded] ||
      recordClass = .recordedObservation
    legacy := legacy
    executionControlsAllowed := operational && !legacy && !superseded
    historyReason := reason
    authorityState := orNone authority
    driverState := orNone driverState
    recordedState := row.get (py "state")
    adapter := row.get (py "adapter") }

/-! ### The preview -/

structure PreviewDetails where
  specDigest : SqlValue
  state : SqlValue
  lifecycle : Lifecycle

/-- What `mission_delete_preview` returns. -/
structure DeletePreview where
  missionId : PyStr
  allowed : Bool
  reason : PyStr
  details : Option PreviewDetails

def deletableStates : List SqlValue :=
  [.text (py "COMPLETE"), .text (py "COMPLETED"), .text (py "SUPERSEDED"),
    .text (py "CANCELLED"), .text (py "STOPPED"), .text (py "FAILED"), .text (py "FAIL"),
    .text (py "REGISTERED"), .text (py "AUTHORIZED"), .text (py "BLOCKED"),
    .text (py "RECORDED_PASS"), .text (py "RECORDED_CLEANED"), .text (py "RECORDED_FAIL")]

def stoppedDriverStates : List SqlValue :=
  [.text (py "COMPLETE"), .text (py "COMPLETED"), .text (py "STOPPED"), .text (py "CANCELLED"),
    .text (py "FAILED"), .text (py "SUPERSEDED")]

def deleteReasons (store : MissionStore) (mission protectedId : PyStr) (row : SqlRow) :
    List PyStr :=
  (if mission = protectedId then [py "SHARED_RUNTIME_OWNER"] else []) ++
  (if (lifecycleOf store mission row).lifecycleClass = .legacyHistory then
      [py "LEGACY_HISTORY_PRESERVATION_POLICY"]
    else if row.get (py "state") ∉ deletableStates then [py "MISSION_STILL_ACTIVE"] else []) ++
  (match store.rowFor (py "mission_execution_drivers") mission with
    | some driver => if driver.get (py "state") ∉ stoppedDriverStates then
        [py "DRIVER_MUST_BE_STOPPED"] else []
    | none => []) ++
  (if (store.tables.rowsOf (py "mission_execution_assignments")).any fun assignment =>
      assignment.holds missionId mission && assignment.holds (py "state") (py "CLAIMED") then
      [py "WORKER_ASSIGNMENT_IN_FLIGHT"]
    else []) ++
  (if (store.tables.rowsOf (py "commands")).any fun command =>
      command.holds missionId mission && (command.holds (py "status") (py "RUNNING") ||
        command.holds (py "status") (py "PENDING")) then
      [py "COMMAND_IN_FLIGHT"]
    else [])

def missionDeletePreview (store : MissionStore) (mission protectedId : PyStr) :
    Except PyError DeletePreview := do
  let _ ← encodeUtf8 mission
  match store.rowFor missionsTable mission with
  | none => return ⟨mission, false, py "MISSION_NOT_FOUND", none⟩
  | some row =>
    let reasons := deleteReasons store mission protectedId row
    return ⟨mission, reasons.isEmpty,
      if reasons = [] then py "RECORDS_ONLY_NO_RUNTIME_STOP"
        else List.intercalate (py "; ") reasons,
      some ⟨row.get (py "spec_digest"), row.get (py "state"), lifecycleOf store mission row⟩⟩

/-! ### The deletion -/

/-- The database and the dictionary `removed`. -/
structure Removal where
  store : MissionStore
  removed : List (PyStr × Nat)

/-- `removed[name]=conn.execute('DELETE FROM ...').rowcount`. -/
def Removal.delete (removal : Removal) (name : PyStr) (selected : SqlRow → Bool) : Removal where
  store := removal.store.deleteFrom name selected
  removed := dictSet name ((removal.store.tables.rowsOf name).countP selected) removal.removed

def evaluationRequests (store : MissionStore) (mission : PyStr) : List SqlValue :=
  ((store.tables.rowsOf dualEvaluations).filter fun row => row.holds missionId mission).map
    fun row => row.get requestId

def isDualReceipt (store : MissionStore) (mission : PyStr) (row : SqlRow) : Bool :=
  row.get requestId ≠ .null && decide (row.get requestId ∈ evaluationRequests store mission)

/-- The receipts of the dual evaluations go first, by the request ids. -/
def Removal.dualStep (mission : PyStr) (removal : Removal) : Removal :=
  let tables := removal.store.tables.names
  if dualReceipts ∈ tables ∧ dualEvaluations ∈ tables then
    removal.delete dualReceipts (isDualReceipt removal.store mission)
  else removal

def excludedTables : List PyStr :=
  [missionsTable, metaTable, bindingsTable, py "sqlite_sequence"]

def Removal.tableStep (mission : PyStr) (removal : Removal) (table : PyStr) : Removal :=
  if missionId ∈ removal.store.tables.columnsOf table then
    removal.delete table fun row => row.holds missionId mission
  else removal

/-- `mission_id=? AND binding_scope!='GLOBAL_SUPERVISOR_CHANNEL'`. -/
def isMissionBinding (mission : PyStr) (row : SqlRow) : Bool :=
  row.holds missionId mission && row.get bindingScope ≠ .null &&
    row.get bindingScope ≠ .text globalChannel

def Removal.bindingsStep (mission : PyStr) (removal : Removal) : Removal :=
  if bindingsTable ∈ removal.store.tables.names then
    removal.delete bindingsTable (isMissionBinding mission)
  else removal

/-- All the `DELETE` statements. -/
def removeRecords (store : MissionStore) (mission : PyStr) : Removal :=
  let start := Removal.dualStep mission ⟨store, []⟩
  let tables := pySorted (store.tables.names.filter fun name => name ∉ excludedTables)
  (Removal.bindingsStep mission (tables.foldl (Removal.tableStep mission) start)).delete
    missionsTable fun row => row.holds missionId mission

/-- What `delete_mission_records` returns. -/
structure Deletion where
  missionId : PyStr
  removedRows : List (PyStr × Nat)

def deletedKey (mission : PyStr) : PyStr :=
  py "deleted_mission:" ++ mission

/-- The statements of `delete_mission_records` between `BEGIN IMMEDIATE` and
`commit`.  `now` is the successive readings of `now_fn`. -/
def deletion (store : MissionStore) (mission : PyStr) (expectedDigest : PyStr)
    (protectedId : PyStr) (now : Nat → PyStr) : Except PyError (MissionStore × Deletion) := do
  let preview ← missionDeletePreview store mission protectedId
  raiseIf (preview.allowed = false) ⟨.valueError, preview.reason⟩
  raiseIf (preview.details.map PreviewDetails.specDigest ≠ some (.text expectedDigest))
    ⟨.valueError, py "MISSION_CHANGED_REFRESH_REQUIRED"⟩
  let removal := removeRecords store mission
  let _ ← encodeUtf8 (now 0)
  let marked := removal.store.setMeta (deletedKey mission) (py "1") (now 0)
  let _ ← encodeUtf8 (now 1)
  let _ ← encodeUtf8 protectedId
  return (marked.moveFocus mission protectedId (now 1), ⟨mission, removal.removed⟩)

/-- A connection: what is committed and the transaction that is open. -/
structure Connection where
  committed : MissionStore
  working : Option MissionStore

def operationalError (text : PyStr) : PyError :=
  ⟨.declared .exception (py "OperationalError"), text⟩

def deleteMissionRecords (connection : Connection) (mission expectedDigest protectedId : PyStr)
    (now : Nat → PyStr) : Connection × Except PyError Deletion :=
  match connection.working with
  | some _ => (connection,
      .error (operationalError (py "cannot start a transaction within a transaction")))
  | none =>
    match deletion connection.committed mission expectedDigest protectedId now with
    | .ok (store, outcome) => (⟨store, none⟩, .ok outcome)
    | .error error => (⟨connection.committed, none⟩, .error error)

end MissionLifecycle

end CyberLion
