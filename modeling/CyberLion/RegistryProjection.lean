import CyberLion.AgentRegistry
import CyberLion.JsonFloat

/-!
# Projections of the agent registry

`AgentRegistryProjection` of `contracts/agent_registry.py` and `resolve_for_mission` of
`enterprise/agent_registry.py`: the specifications that a mission may be planned with, read from
the active rows of the registry and sealed by a digest.
-/

namespace CyberLion

open PyLib

/-- `authority_rank` of a class that was checked. -/
def rankOf (value : PyStr) : Nat :=
  ((AuthorityClass.ofText value).map AuthorityClass.rank).getD 0

namespace AgentRegistry

open FleetCoordination (iterate textList textOf)

/-! ### Reading a specification -/

/-- The parameters of `AgentSpec`. -/
def specNames : List PyStr :=
  [py "agent_id", py "version", py "role", py "mission", py "capabilities",
    py "authority_ceiling", py "execution_domain", py "observability_events", py "memory_read",
    py "memory_write", py "memory_policy_ids", py "max_runtime_seconds", py "max_cost_units",
    py "risk_class", py "provider_class", py "is_verifier", py "process_profile"]

def memberOr (default : Json) (name : PyStr) (fields : List (PyStr × Json)) : Json :=
  (fields.lookup name).getD default

/-- `tuple(d.get(name,()))`. -/
def tupleField (name : PyStr) (fields : List (PyStr × Json)) : Except PyError (List Json) :=
  iterate (memberOr (.arr []) name fields)

def typeError (expected : PyStr) : PyError :=
  ⟨.typeError, expected⟩

def boolOf : Json → Except PyError Bool
  | .bool value => .ok value
  | _ => .error (typeError (py "bool"))

def intOf : Json → Except PyError Int
  | .int value => .ok value
  | _ => .error (typeError (py "int"))

def floatOf (value : Json) : Except PyError PyFloat :=
  match value.number with
  | some number => .ok number
  | none => .error (typeError (py "float"))

def optionalTextOf : Json → Except PyError (Option PyStr)
  | .null => .ok none
  | .str value => .ok (some value)
  | _ => .error (typeError (py "str"))

def requiredText (name : PyStr) (fields : List (PyStr × Json)) : Except PyError PyStr :=
  match fields.lookup name with
  | some value => textOf value
  | none => .error (typeError (py "missing a required positional argument"))

/-- The members of `d` that were made tuples. -/
structure SpecTuples where
  capabilities : List Json
  observabilityEvents : List Json
  memoryPolicyIds : List Json

def SpecTuples.read (fields : List (PyStr × Json)) : Except PyError SpecTuples := do
  let capabilities ← tupleField (py "capabilities") fields
  let observabilityEvents ← tupleField (py "observability_events") fields
  let memoryPolicyIds ← tupleField (py "memory_policy_ids") fields
  return ⟨capabilities, observabilityEvents, memoryPolicyIds⟩

/-- `AgentSpec(**d)`, whose members have the types that the class declares. -/
def buildSpec (fields : List (PyStr × Json)) (tuples : SpecTuples) :
    Except PyError RegisteredSpec := do
  raiseIf (∃ field ∈ fields, field.1 ∉ specNames)
    (typeError (py "unexpected keyword argument"))
  let agentId ← requiredText (py "agent_id") fields
  let version ← requiredText (py "version") fields
  let role ← requiredText (py "role") fields
  let mission ← requiredText (py "mission") fields
  let capabilities ← tuples.capabilities.mapM textOf
  let authorityCeiling ← textOf (memberOr (.str (py "read")) (py "authority_ceiling") fields)
  let executionDomain ← textOf (memberOr (.str (py "analysis")) (py "execution_domain") fields)
  let observabilityEvents ← tuples.observabilityEvents.mapM textOf
  let memoryRead ← boolOf (memberOr (.bool false) (py "memory_read") fields)
  let memoryWrite ← boolOf (memberOr (.bool false) (py "memory_write") fields)
  let memoryPolicyIds ← tuples.memoryPolicyIds.mapM textOf
  let maxRuntimeSeconds ← intOf (memberOr (.int 900) (py "max_runtime_seconds") fields)
  let cost := memberOr (.float (py "1.0")) (py "max_cost_units") fields
  let maxCostUnits ← floatOf cost
  let riskClass ← textOf (memberOr (.str (py "GREEN")) (py "risk_class") fields)
  let providerClass ← textOf (memberOr (.str (py "hybrid")) (py "provider_class") fields)
  let isVerifier ← boolOf (memberOr (.bool false) (py "is_verifier") fields)
  let processProfile ← optionalTextOf (memberOr .null (py "process_profile") fields)
  return ⟨⟨agentId, version, role, mission, capabilities, authorityCeiling, executionDomain,
    observabilityEvents, memoryRead, memoryWrite, memoryPolicyIds, maxRuntimeSeconds,
    maxCostUnits, riskClass, providerClass, isVerifier, processProfile⟩, cost⟩

/-- `AgentSpec(**d).validate()`. -/
def validSpec (fields : List (PyStr × Json)) (tuples : SpecTuples) :
    Except PyError RegisteredSpec := do
  let spec ← buildSpec fields tuples
  spec.agent.validate
  return spec

def specFrom (raw : PyStr) : Except PyError RegisteredSpec := do
  let value ← rethrow (fun _ => true) (fun _ => stateError (py "stored AgentSpec invalid"))
    (Json.loads Json.plainHooks raw)
  match value with
  | .obj fields => do
    let tuples ← SpecTuples.read fields
    rethrow (fun _ => true) (fun _ => stateError (py "stored AgentSpec invalid"))
      (validSpec fields tuples)
  | _ => .error (typeError (py "object does not support item assignment"))

/-! ### Projections -/

/-- `AgentRegistryProjection`.  The candidates are JSON objects. -/
structure Projection where
  registryId : PyStr
  revision : Int
  eventHead : PyStr
  missionId : PyStr
  requiredCapabilities : List PyStr
  candidateSpecs : List Json
  resolutionDigest : PyStr

namespace Projection

def validate (projection : Projection) : Except PyError Unit := do
  text (py "registry_id") projection.registryId
  digest (py "event_head") projection.eventHead
  text (py "mission_id") projection.missionId
  strings (py "required_capabilities") ⟨true, projection.requiredCapabilities⟩
  digest (py "resolution_digest") projection.resolutionDigest
  raiseIf (projection.revision < 0) (contractError (py "projection invalid"))

def canonicalPayload (projection : Projection) : Json :=
  .obj [(py "registry_id", .str projection.registryId), (py "revision", .int projection.revision),
    (py "event_head", .str projection.eventHead), (py "mission_id", .str projection.missionId),
    (py "required_capabilities", textList projection.requiredCapabilities),
    (py "candidate_specs", .arr projection.candidateSpecs)]

def verifyDigest (projection : Projection) : Except PyError Unit := do
  projection.validate
  let expected ← digestOf projection.canonicalPayload
  raiseIf (expected ≠ projection.resolutionDigest)
    (contractError (py "projection digest mismatch"))

end Projection

/-! ### Resolution -/

/-- The columns that `ORDER BY a.agent_id,a.version,a.spec_digest` compares. -/
def ActiveRow.before (first second : ActiveRow) : Bool :=
  first.agentId < second.agentId || (first.agentId = second.agentId &&
    (first.version < second.version || (first.version = second.version &&
      first.specDigest ≤ second.specDigest)))

/-- The rows of `agent_registry_spec` that the active rows are joined with. -/
def Database.activeSpecs (db : Database) : List SpecRow :=
  (db.active.insertionSort fun first second => first.before second).flatMap fun row =>
    db.specs.filter fun spec => spec.agentId = row.agentId && spec.version = row.version

def verifierRequired (mission : MissionSpec) : Bool :=
  mission.requireIndependentVerifier || mission.riskClass = py "RED" ||
    AuthorityClass.externalWrite.rank ≤ rankOf mission.authorityCeiling

def suits (mission : MissionSpec) (agent : AgentSpec) : Bool :=
  agent.capabilities.any (fun capability => capability ∈ mission.requiredCapabilities) ||
    (verifierRequired mission && agent.isVerifier)

def Database.projectionOf (db : Database) (mission : MissionSpec) (specs : List RegisteredSpec)
    (resolutionDigest : PyStr) : Projection :=
  ⟨db.registryId, db.revision, db.eventHead, mission.missionId, mission.requiredCapabilities,
    specs.map RegisteredSpec.dict, resolutionDigest⟩

/-- `resolve_for_mission`, with the condition under which a specification is kept. -/
def Database.resolveWith (keep : AgentSpec → Bool) (mission : MissionSpec) (db : Database) :
    Except PyError Projection := do
  mission.validate
  let specs ← db.activeSpecs.mapM fun row => specFrom row.specJson
  let kept := specs.filter fun spec => keep spec.agent
  let resolutionDigest ← digestOf (db.projectionOf mission kept []).canonicalPayload
  let projection := db.projectionOf mission kept resolutionDigest
  projection.verifyDigest
  return projection

def Database.resolveForMission (mission : MissionSpec) (db : Database) :
    Except PyError Projection :=
  db.resolveWith (suits mission) mission

end AgentRegistry

end CyberLion
