import CyberLion.EnterpriseModels
import CyberLion.FleetCoordinationReads
import CyberLion.PersistentAuthorityState
import CyberLion.PyConvert
import CyberLion.SqlTable

/-!
# The agent registry

`contracts/agent_registry.py` and `enterprise/agent_registry.py`: the specifications that are
registered, which one of an agent is active, the instances of agents, the log of operations
that makes a repetition harmless, and the chain of events.  Each call is one transaction.
-/

namespace CyberLion

namespace AgentRegistry

open PyLib
open FleetCoordination (canonicalJson textList optionalText zeroDigest textFieldOf intFieldOf
  textsFieldOf)

def agentRegistryContractErrorClass : ErrorClass :=
  .declared .valueError (py "AgentRegistryContractError")

def agentRegistryStateErrorClass : ErrorClass :=
  .declared .runtimeError (py "AgentRegistryStateError")

/-- `AgentRegistryContractError(message)`. -/
def contractError (message : PyStr) : PyError :=
  ⟨agentRegistryContractErrorClass, message⟩

/-- `AgentRegistryStateError(message)`. -/
def stateError (message : PyStr) : PyError :=
  ⟨agentRegistryStateErrorClass, message⟩

/-! ### Contracts -/

def text (name value : PyStr) : Except PyError Unit :=
  raiseIf (isBlank value = true ∨ hasNul value = true) (contractError (name ++ py " is invalid"))

def digest (name value : PyStr) : Except PyError Unit := do
  text name value
  raiseIf (¬ isLowerHexOf 64 value = true) (contractError (name ++ py " must be sha256 hex"))

structure EvidenceRefs where
  isTuple : Bool
  items : List PyStr
  deriving DecidableEq

/-- `_strings` where one is needed. -/
def strings (name : PyStr) (refs : EvidenceRefs) : Except PyError Unit := do
  raiseIf (refs.isTuple = false ∨ refs.items = []) (contractError (name ++ py " must be tuple"))
  forM refs.items (text name)
  raiseIf (¬ refs.items.Nodup) (contractError (name ++ py " must be unique"))

structure AgentSpecKey where
  agentId : PyStr
  version : PyStr
  specDigest : PyStr
  deriving DecidableEq

def AgentSpecKey.validate (key : AgentSpecKey) : Except PyError Unit := do
  text (py "agent_id") key.agentId
  text (py "version") key.version
  digest (py "spec_digest") key.specDigest

/-- `INSTANCE_STATES`. -/
inductive InstanceState
  | registered
  | active
  | suspended
  | revoked
  | terminated
  deriving DecidableEq

namespace InstanceState

def text : InstanceState → PyStr
  | registered => py "REGISTERED"
  | active => py "ACTIVE"
  | suspended => py "SUSPENDED"
  | revoked => py "REVOKED"
  | terminated => py "TERMINATED"

def all : List InstanceState :=
  [registered, active, suspended, revoked, terminated]

/-- `TERMINAL_INSTANCE_STATES`. -/
def isTerminal : InstanceState → Bool
  | revoked | terminated => true
  | _ => false

def find (states : List InstanceState) (value : PyStr) : Option InstanceState :=
  states.find? fun state => state.text = value

/-- `allowed.get(state, set())`. -/
def allowed : InstanceState → List InstanceState
  | registered => [active, revoked, terminated]
  | active => [suspended, revoked, terminated]
  | suspended => [active, revoked, terminated]
  | revoked | terminated => []

end InstanceState

structure AgentInstance where
  instanceId : PyStr
  agentId : PyStr
  specVersion : PyStr
  specDigest : PyStr
  state : InstanceState
  generation : Nat
  createdAt : PyStr
  updatedAt : PyStr
  evidenceRefs : EvidenceRefs
  deriving DecidableEq

def AgentInstance.validate (value : AgentInstance) : Except PyError Unit := do
  text (py "instance_id") value.instanceId
  text (py "agent_id") value.agentId
  text (py "spec_version") value.specVersion
  text (py "created_at") value.createdAt
  text (py "updated_at") value.updatedAt
  digest (py "spec_digest") value.specDigest
  strings (py "evidence_refs") value.evidenceRefs

structure AgentRegistrySnapshot where
  registryId : PyStr
  revision : Nat
  eventHead : PyStr
  activeSpecs : List AgentSpecKey
  instances : List AgentInstance
  deriving DecidableEq

def AgentRegistrySnapshot.validate (snapshot : AgentRegistrySnapshot) : Except PyError Unit := do
  text (py "registry_id") snapshot.registryId
  digest (py "event_head") snapshot.eventHead
  forM snapshot.activeSpecs AgentSpecKey.validate
  forM snapshot.instances AgentInstance.validate
  raiseIf (¬ (snapshot.activeSpecs.map AgentSpecKey.agentId).Nodup)
    (contractError (py "multiple canonical specs"))

/-! ### Tables -/

/-- A row of `agent_registry_spec`. -/
structure SpecRow where
  agentId : PyStr
  version : PyStr
  specDigest : PyStr
  specJson : PyStr
  registeredAt : PyStr
  deriving DecidableEq

/-- A row of `agent_registry_active_spec`. -/
structure ActiveRow where
  agentId : PyStr
  version : PyStr
  specDigest : PyStr
  activatedAt : PyStr
  deriving DecidableEq

/-- A row of `agent_registry_instance`, with the texts that its JSON column holds. -/
structure InstanceRow where
  instanceId : PyStr
  agentId : PyStr
  specVersion : PyStr
  specDigest : PyStr
  state : InstanceState
  generation : Nat
  createdAt : PyStr
  updatedAt : PyStr
  evidenceRefs : List PyStr
  deriving DecidableEq

/-- A row of `agent_registry_operation`. -/
structure OperationRow where
  operationId : PyStr
  operationDigest : PyStr
  resultJson : PyStr
  resultDigest : PyStr
  observedAt : PyStr
  deriving DecidableEq

inductive EventType
  | specRegistered
  | specSuperseded
  | instanceRegistered
  | instanceTransitioned
  deriving DecidableEq

def EventType.text : EventType → PyStr
  | specRegistered => py "SPEC_REGISTERED"
  | specSuperseded => py "SPEC_SUPERSEDED"
  | instanceRegistered => py "INSTANCE_REGISTERED"
  | instanceTransitioned => py "INSTANCE_TRANSITIONED"

/-- A row of `agent_registry_event`.  The rows stand in the order of `seq`. -/
structure EventRow where
  eventId : PyStr
  eventType : EventType
  agentId : PyStr
  instanceId : Option PyStr
  payloadJson : PyStr
  previousDigest : PyStr
  eventDigest : PyStr
  observedAt : PyStr
  deriving DecidableEq

/-- The tables, with the columns of the one row of `agent_registry_meta`. -/
structure Database where
  registryId : PyStr
  revision : Nat
  eventHead : PyStr
  specs : List SpecRow
  active : List ActiveRow
  instances : List InstanceRow
  operations : List OperationRow
  events : List EventRow
  deriving DecidableEq

/-- What `_bind` inserts into a new database. -/
def emptyDatabase (registryId : PyStr) : Database :=
  ⟨registryId, 0, zeroDigest, [], [], [], [], []⟩

def uniqueError (columns : PyStr) : PyError :=
  ⟨.integrityError, py "UNIQUE constraint failed: " ++ columns⟩

/-! ### Digests and events -/

def now : Moment → Except PyError PyStr
  | .naive _ => .error (stateError (py "trusted clock must be timezone-aware"))
  | .aware time offset => do
    let utcTime ← time.astimezoneUtc offset
    return utcTime.isoformatUtc

/-- `sha256(canonical_json(value)).hexdigest()`. -/
def digestOf (value : Json) : Except PyError PyStr := do
  let bytes ← canonicalJson value
  return sha256 bytes

/-- `_event`. -/
def eventDigestOf (previous : PyStr) (eventType : EventType) (agentId : PyStr)
    (instanceId : Option PyStr) (payload : Json) (observedAt : PyStr) : Except PyError PyStr :=
  digestOf (.obj [(py "previous_digest", .str previous), (py "event_type", .str eventType.text),
    (py "agent_id", .str agentId), (py "instance_id", optionalText instanceId),
    (py "payload", payload), (py "observed_at", .str observedAt)])

def append (eventType : EventType) (agentId : PyStr) (instanceId : Option PyStr) (payload : Json)
    (observedAt : PyStr) (db : Database) : Except PyError Database := do
  let eventDigest ← eventDigestOf db.eventHead eventType agentId instanceId payload observedAt
  let bytes ← canonicalJson payload
  let event : EventRow := ⟨eventDigest, eventType, agentId, instanceId, bytes.text, db.eventHead,
    eventDigest, observedAt⟩
  let events ← insertRow (uniqueError (py "agent_registry_event.event_id"))
    (fun row => row.eventId = eventDigest || row.eventDigest = eventDigest) event db.events
  return { db with events, revision := db.revision + 1, eventHead := eventDigest }

/-! ### The log of operations -/

/-- The result of an operation row, if the operation is the same. -/
def OperationRow.result (operationDigest : PyStr) (row : OperationRow) : Except PyError Json := do
  let bytes ← encodeUtf8 row.resultJson
  raiseIf (row.operationDigest ≠ operationDigest ∨ sha256 bytes ≠ row.resultDigest)
    (stateError (py "operation replay substitution/corruption denied"))
  Json.loads Json.plainHooks row.resultJson

def cached (operationId : PyStr) (payload : Json) (db : Database) :
    Except PyError (PyStr × Json) := do
  let operationDigest ← digestOf payload
  bindText operationId
  match db.operations.find? (fun row => row.operationId = operationId) with
  | none => return (operationDigest, .null)
  | some row => do
    let value ← row.result operationDigest
    return (operationDigest, value)

def save (operationId operationDigest : PyStr) (result : Json) (observedAt : PyStr)
    (db : Database) : Except PyError Database := do
  let raw ← Json.dumps true true result
  let bytes ← encodeUtf8 raw
  let operations ← insertRow (uniqueError (py "agent_registry_operation.operation_id"))
    (fun row => row.operationId = operationId)
    ⟨operationId, operationDigest, raw, sha256 bytes, observedAt⟩ db.operations
  return { db with operations }

def commit (eventType : EventType) (agentId : PyStr) (instanceId : Option PyStr) (payload : Json)
    (operationId operationDigest : PyStr) (result : Json) (observedAt : PyStr) (db : Database) :
    Except PyError Database := do
  let db ← append eventType agentId instanceId payload observedAt db
  save operationId operationDigest result observedAt db

/-- What the four operations share: a saved result is given again. -/
def operate {α : Type} (operationId : PyStr) (payload : Json) (replay : Json → Except PyError α)
    (work : PyStr → Except PyError (Database × α)) (db : Database) :
    Except PyError (Database × α) := do
  let (operationDigest, saved) ← cached operationId payload db
  if saved.isTrue = true then do
    let result ← replay saved
    return (db, result)
  else work operationDigest

/-! ### Results -/

/-- `asdict` of a key. -/
def AgentSpecKey.fields (key : AgentSpecKey) : List (PyStr × Json) :=
  [(py "agent_id", .str key.agentId), (py "version", .str key.version),
    (py "spec_digest", .str key.specDigest)]

/-- `AgentSpecKey(**x).validate()`. -/
def AgentSpecKey.replay : Json → Except PyError AgentSpecKey
  | .obj fields => do
    let agentId ← textFieldOf fields (py "agent_id")
    let version ← textFieldOf fields (py "version")
    let specDigest ← textFieldOf fields (py "spec_digest")
    let key : AgentSpecKey := ⟨agentId, version, specDigest⟩
    key.validate
    return key
  | _ => .error ⟨.typeError, py "argument after ** must be a mapping"⟩

/-- `asdict` of an instance, with its references as a list. -/
def AgentInstance.fields (value : AgentInstance) : List (PyStr × Json) :=
  [(py "instance_id", .str value.instanceId), (py "agent_id", .str value.agentId),
    (py "spec_version", .str value.specVersion), (py "spec_digest", .str value.specDigest),
    (py "state", .str value.state.text), (py "generation", .int value.generation),
    (py "created_at", .str value.createdAt), (py "updated_at", .str value.updatedAt),
    (py "evidence_refs", textList value.evidenceRefs.items)]

/-- The state and the generation that `validate` accepts. -/
def lifecycle (state : PyStr) (generation : Int) : Except PyError (InstanceState × Nat) :=
  match InstanceState.find InstanceState.all state, generation with
  | some known, .ofNat count => .ok (known, count)
  | _, _ => .error (contractError (py "instance lifecycle invalid"))

/-- `AgentInstance(**x).validate()`, with the references as a tuple. -/
def AgentInstance.replay : Json → Except PyError AgentInstance
  | .obj fields => do
    let refs ← textsFieldOf fields (py "evidence_refs")
    let instanceId ← textFieldOf fields (py "instance_id")
    let agentId ← textFieldOf fields (py "agent_id")
    let specVersion ← textFieldOf fields (py "spec_version")
    let specDigest ← textFieldOf fields (py "spec_digest")
    let stateText ← textFieldOf fields (py "state")
    let number ← intFieldOf fields (py "generation")
    let createdAt ← textFieldOf fields (py "created_at")
    let updatedAt ← textFieldOf fields (py "updated_at")
    let (state, generation) ← lifecycle stateText number
    let value : AgentInstance := ⟨instanceId, agentId, specVersion, specDigest, state, generation,
      createdAt, updatedAt, ⟨true, refs⟩⟩
    value.validate
    return value
  | _ => .error ⟨.typeError, py "string indices must be integers"⟩

/-! ### Specifications -/

structure RegisteredSpec where
  agent : AgentSpec
  cost : Json

/-- `_spec_dict`. -/
def RegisteredSpec.dict (spec : RegisteredSpec) : Json :=
  .obj [(py "agent_id", .str spec.agent.agentId), (py "version", .str spec.agent.version),
    (py "role", .str spec.agent.role), (py "mission", .str spec.agent.mission),
    (py "capabilities", textList spec.agent.capabilities),
    (py "authority_ceiling", .str spec.agent.authorityCeiling),
    (py "execution_domain", .str spec.agent.executionDomain),
    (py "observability_events", textList spec.agent.observabilityEvents),
    (py "memory_read", .bool spec.agent.memoryRead),
    (py "memory_write", .bool spec.agent.memoryWrite),
    (py "memory_policy_ids", textList spec.agent.memoryPolicyIds),
    (py "max_runtime_seconds", .int spec.agent.maxRuntimeSeconds),
    (py "max_cost_units", spec.cost), (py "risk_class", .str spec.agent.riskClass),
    (py "provider_class", .str spec.agent.providerClass),
    (py "is_verifier", .bool spec.agent.isVerifier),
    (py "process_profile", optionalText spec.agent.processProfile)]

/-- The bytes that `_spec_digest` digests. -/
def RegisteredSpec.bytes (spec : RegisteredSpec) : Except PyError Utf8Bytes := do
  spec.agent.validate
  canonicalJson spec.dict

def RegisteredSpec.key (spec : RegisteredSpec) (bytes : Utf8Bytes) : AgentSpecKey :=
  ⟨spec.agent.agentId, spec.agent.version, sha256 bytes⟩

/-- The insertion of a specification, which becomes the active one of its agent. -/
def bindSpec (eventType : EventType) (payload : Json) (operationId operationDigest : PyStr)
    (spec : RegisteredSpec) (bytes : Utf8Bytes) (clock : Moment)
    (activate : ActiveRow → Except PyError (List ActiveRow)) (db : Database) :
    Except PyError (Database × AgentSpecKey) := do
  let observedAt ← now clock
  let key := spec.key bytes
  let specs ← insertRow (uniqueError (py "agent_registry_spec.spec_digest"))
    (fun row => row.specDigest = key.specDigest)
    ⟨key.agentId, key.version, key.specDigest, bytes.text, observedAt⟩ db.specs
  let active ← activate ⟨key.agentId, key.version, key.specDigest, observedAt⟩
  let db ← commit eventType key.agentId none payload operationId operationDigest
    (.obj key.fields) observedAt { db with specs, active }
  return (db, key)

def Database.hasSpec (db : Database) (agentId version : PyStr) : Bool :=
  db.specs.any fun row => row.agentId = agentId && row.version = version

/-- The payload of `register_spec`. -/
def registerPayload (key : AgentSpecKey) (refs : EvidenceRefs) : Json :=
  .obj [(py "kind", .str (py "register")), (py "agent_id", .str key.agentId),
    (py "version", .str key.version), (py "spec_digest", .str key.specDigest),
    (py "evidence_refs", textList refs.items)]

/-- The `work` of `register_spec`. -/
def registerWork (spec : RegisteredSpec) (bytes : Utf8Bytes) (operationId : PyStr)
    (refs : EvidenceRefs) (clock : Moment) (db : Database) (operationDigest : PyStr) :
    Except PyError (Database × AgentSpecKey) := do
  raiseIf (refs.items = []) (stateError (py "evidence required"))
  raiseIf (db.active.any (fun row => row.agentId = spec.agent.agentId) = true)
    (stateError (py "explicit supersession required"))
  raiseIf (db.hasSpec spec.agent.agentId spec.agent.version = true)
    (stateError (py "version reuse denied"))
  bindSpec .specRegistered (registerPayload (spec.key bytes) refs) operationId operationDigest
    spec bytes clock (fun row => insertRow (uniqueError (py "agent_registry_active_spec.agent_id"))
      (fun other => other.agentId = row.agentId) row db.active) db

def registerSpec (spec : RegisteredSpec) (operationId : PyStr) (refs : EvidenceRefs)
    (clock : Moment) (db : Database) : Except PyError (Database × AgentSpecKey) := do
  let bytes ← spec.bytes
  operate operationId (registerPayload (spec.key bytes) refs) AgentSpecKey.replay
    (registerWork spec bytes operationId refs clock db) db

/-- The payload of `supersede_spec`. -/
def supersedePayload (key : AgentSpecKey) (expectedVersion expectedDigest : PyStr)
    (refs : EvidenceRefs) : Json :=
  .obj [(py "kind", .str (py "supersede")), (py "agent_id", .str key.agentId),
    (py "expected_version", .str expectedVersion), (py "expected_digest", .str expectedDigest),
    (py "version", .str key.version), (py "spec_digest", .str key.specDigest),
    (py "evidence_refs", textList refs.items)]

def Database.activeSpec (db : Database) (agentId : PyStr) : Option ActiveRow :=
  db.active.find? fun row => row.agentId = agentId

def ActiveRow.moved (next : ActiveRow) (row : ActiveRow) : ActiveRow :=
  { row with version := next.version, specDigest := next.specDigest,
             activatedAt := next.activatedAt }

/-- The `work` of `supersede_spec`. -/
def supersedeWork (spec : RegisteredSpec) (bytes : Utf8Bytes)
    (expectedVersion expectedDigest operationId : PyStr) (refs : EvidenceRefs) (clock : Moment)
    (db : Database) (operationDigest : PyStr) : Except PyError (Database × AgentSpecKey) := do
  raiseIf ((db.activeSpec spec.agent.agentId).map (fun row => (row.version, row.specDigest)) ≠
    some (expectedVersion, expectedDigest)) (stateError (py "exact current binding mismatch"))
  raiseIf (db.hasSpec spec.agent.agentId spec.agent.version = true)
    (stateError (py "historical rollback/reuse denied"))
  bindSpec .specSuperseded (supersedePayload (spec.key bytes) expectedVersion expectedDigest refs)
    operationId operationDigest spec bytes clock
    (fun row => .ok (updateWhere (fun other => other.agentId = row.agentId) row.moved db.active)) db

def supersedeSpec (spec : RegisteredSpec) (expectedVersion expectedDigest operationId : PyStr)
    (refs : EvidenceRefs) (clock : Moment) (db : Database) :
    Except PyError (Database × AgentSpecKey) := do
  let bytes ← spec.bytes
  operate operationId (supersedePayload (spec.key bytes) expectedVersion expectedDigest refs)
    AgentSpecKey.replay
    (supersedeWork spec bytes expectedVersion expectedDigest operationId refs clock db) db

/-! ### Instances -/

def AgentInstance.row (value : AgentInstance) : InstanceRow :=
  ⟨value.instanceId, value.agentId, value.specVersion, value.specDigest, value.state,
    value.generation, value.createdAt, value.updatedAt, value.evidenceRefs.items⟩

/-- The payload of `register_instance`. -/
def instancePayload (instanceId agentId specVersion specDigest : PyStr) (refs : EvidenceRefs) :
    Json :=
  .obj [(py "kind", .str (py "instance")), (py "instance_id", .str instanceId),
    (py "agent_id", .str agentId), (py "spec_version", .str specVersion),
    (py "spec_digest", .str specDigest), (py "evidence_refs", textList refs.items)]

/-- The `work` of `register_instance`. -/
def instanceWork (instanceId agentId specVersion specDigest operationId : PyStr)
    (refs : EvidenceRefs) (clock : Moment) (db : Database) (operationDigest : PyStr) :
    Except PyError (Database × AgentInstance) := do
  let known := db.specs.find? fun row => row.agentId = agentId && row.version = specVersion
  raiseIf (known.map SpecRow.specDigest ≠ some specDigest)
    (stateError (py "exact spec binding unavailable"))
  let observedAt ← now clock
  let value : AgentInstance := ⟨instanceId, agentId, specVersion, specDigest, .registered, 0,
    observedAt, observedAt, refs⟩
  value.validate
  let instances ← insertRow (uniqueError (py "agent_registry_instance.instance_id"))
    (fun row => row.instanceId = instanceId) value.row db.instances
  let db ← commit .instanceRegistered agentId (some instanceId)
    (instancePayload instanceId agentId specVersion specDigest refs) operationId operationDigest
    (.obj value.fields) observedAt { db with instances }
  return (db, value)

def registerInstance (instanceId agentId specVersion specDigest operationId : PyStr)
    (refs : EvidenceRefs) (clock : Moment) (db : Database) :
    Except PyError (Database × AgentInstance) :=
  operate operationId (instancePayload instanceId agentId specVersion specDigest refs)
    AgentInstance.replay
    (instanceWork instanceId agentId specVersion specDigest operationId refs clock db) db

/-- The payload of `transition_instance`. -/
def transitionPayload (instanceId toState : PyStr) (refs : EvidenceRefs) : Json :=
  .obj [(py "kind", .str (py "transition")), (py "instance_id", .str instanceId),
    (py "to_state", .str toState), (py "evidence_refs", textList refs.items)]

def InstanceRow.next (row : InstanceRow) (state : InstanceState) (observedAt : PyStr)
    (refs : EvidenceRefs) : AgentInstance :=
  ⟨row.instanceId, row.agentId, row.specVersion, row.specDigest, state, row.generation + 1,
    row.createdAt, observedAt, refs⟩

def AgentInstance.moveRow (value : AgentInstance) (row : InstanceRow) : InstanceRow :=
  { row with state := value.state, generation := value.generation,
             updatedAt := value.updatedAt, evidenceRefs := value.evidenceRefs.items }

/-- The row that `transition_instance` moves, with its next state. -/
def Database.transition (db : Database) (instanceId toState : PyStr) :
    Except PyError (InstanceRow × InstanceState) :=
  match db.instances.find? (fun row => row.instanceId = instanceId) with
  | none => .error (stateError (py "instance transition denied"))
  | some row =>
    match InstanceState.find row.state.allowed toState with
    | none => .error (stateError (py "instance transition denied"))
    | some state => .ok (row, state)

/-- The `work` of `transition_instance`. -/
def transitionWork (instanceId toState operationId : PyStr) (refs : EvidenceRefs) (clock : Moment)
    (db : Database) (operationDigest : PyStr) : Except PyError (Database × AgentInstance) := do
  let (row, state) ← db.transition instanceId toState
  let observedAt ← now clock
  let value := row.next state observedAt refs
  let instances := updateWhere (fun other => other.instanceId = instanceId) value.moveRow
    db.instances
  value.validate
  let db ← commit .instanceTransitioned row.agentId (some instanceId)
    (transitionPayload instanceId toState refs) operationId operationDigest (.obj value.fields)
    observedAt { db with instances }
  return (db, value)

def transitionInstance (instanceId toState operationId : PyStr) (refs : EvidenceRefs)
    (clock : Moment) (db : Database) : Except PyError (Database × AgentInstance) :=
  operate operationId (transitionPayload instanceId toState refs) AgentInstance.replay
    (transitionWork instanceId toState operationId refs clock db) db

/-! ### Reading -/

def InstanceRow.read (row : InstanceRow) : AgentInstance :=
  ⟨row.instanceId, row.agentId, row.specVersion, row.specDigest, row.state, row.generation,
    row.createdAt, row.updatedAt, ⟨true, row.evidenceRefs.map (Json.decodeText true)⟩⟩

/-- What `snapshot` reads. -/
def Database.view (db : Database) : AgentRegistrySnapshot where
  registryId := db.registryId
  revision := db.revision
  eventHead := db.eventHead
  activeSpecs := (db.active.insertionSort fun first second => first.agentId ≤ second.agentId).map
    fun row => ⟨row.agentId, row.version, row.specDigest⟩
  instances := (db.instances.insertionSort fun first second =>
    first.instanceId ≤ second.instanceId).map InstanceRow.read

def snapshot (db : Database) : Except PyError AgentRegistrySnapshot := do
  forM db.view.instances AgentInstance.validate
  db.view.validate
  return db.view

/-- One round of the loop of `verify_event_chain`. -/
def verifyEvent (previous : PyStr) (event : EventRow) : Except PyError PyStr := do
  let payload ← rethrow (fun _ => true) (fun _ => stateError (py "event corruption"))
    (Json.loads Json.plainHooks event.payloadJson)
  let expected ← eventDigestOf previous event.eventType event.agentId event.instanceId payload
    event.observedAt
  raiseIf (event.previousDigest ≠ previous ∨ event.eventDigest ≠ expected ∨
    event.eventId ≠ expected) (stateError (py "event chain corruption"))
  return expected

def verifyEventChain (db : Database) : Except PyError PyStr := do
  let head ← db.events.foldlM verifyEvent zeroDigest
  raiseIf (db.eventHead ≠ head) (stateError (py "event head mismatch"))
  return head

def Database.actualDigest (db : Database) (agentId version : PyStr) : Option PyStr :=
  (db.specs.find? fun row => row.agentId = agentId && row.version = version).map
    SpecRow.specDigest

def verifyConsistency (db : Database) : Except PyError Unit := do
  forM db.active fun row =>
    raiseIf (db.actualDigest row.agentId row.version ≠ some row.specDigest)
      (stateError (py "active spec projection corruption"))
  forM db.instances fun row =>
    raiseIf (db.actualDigest row.agentId row.specVersion ≠ some row.specDigest)
      (stateError (py "instance spec binding corruption"))

/-- The constructor of a store on a database that was opened before. -/
def openStore (registryId : PyStr) (db : Database) : Except PyError Unit := do
  raiseIf (registryId = []) (stateError (py "registry_id required"))
  raiseIf (db.registryId ≠ registryId) (stateError (py "registry substitution denied"))
  let _ ← verifyEventChain db
  verifyConsistency db

end AgentRegistry

end CyberLion
