import CyberLion.CanonicalProcessIR
import CyberLion.FleetMission
import CyberLion.PyObject

/-!
# The codec of a fleet mission

`as_dict`, `canonical_bytes`, `digest` and `from_mapping` of `process_language/fleet_mission.py`.
`dataclasses.asdict` keeps the tuples of a role, and `from_mapping` passes on what the mapping
holds before its types are known.
-/

namespace CyberLion

open PyLib ProcessIR

namespace FleetMission

def executionDomains : List (ExecutionDomain × PyStr) :=
  [(.logical, py "LOGICAL"), (.localDomain, py "LOCAL")]

/-! ### Reading a mapping -/

/-- The fields of `FleetRoleSpec` before they are validated. -/
structure RawRole where
  roleId : PyObject
  executionDomain : PyObject
  capabilities : List PyObject
  independentFrom : List PyObject

/-- The fields of `FleetMissionIR` before they are validated. -/
structure RawMission where
  schemaVersion : PyObject
  missionId : PyObject
  fleetClass : PyObject
  roles : List RawRole
  routing : List (PyObject × PyObject)
  authorityEffect : PyObject
  runtimeEffect : PyObject
  effectProviderEffect : PyObject

def missionFields : List PyStr :=
  [py "schema_version", py "mission_id", py "fleet_class", py "roles", py "routing",
    py "authority_effect", py "runtime_effect", py "effect_provider_effect"]

def roleFields : List PyStr :=
  [py "role_id", py "execution_domain", py "capabilities", py "independent_from"]

def routeFields : List PyStr :=
  [py "transition_id", py "role_id"]

def exactDict (expected : List PyStr) (notDict notCanonical : PyError) :
    PyObject → Except PyError (List (PyStr × PyObject))
  | .dict fields => do
    raiseIf (¬ (fields.map Prod.fst ⊆ expected ∧ expected ⊆ fields.map Prod.fst)) notCanonical
    return fields
  | _ => .error notDict

/-- `value[key]`. -/
def entry (fields : List (PyStr × PyObject)) (key : PyStr) : Except PyError PyObject :=
  match fields.lookup key with
  | some value => .ok value
  | none => .error ⟨.keyError, key⟩

/-- The items of a value whose type is `list`. -/
def listItems (error : PyError) : PyObject → Except PyError (List PyObject)
  | .list items => .ok items
  | _ => .error error

def readRole (value : PyObject) : Except PyError RawRole := do
  let fields ← exactDict roleFields (contractError (py "role fields are not canonical"))
    (contractError (py "role fields are not canonical")) value
  let capabilities ← entry fields (py "capabilities")
  let independentFrom ← entry fields (py "independent_from")
  let capabilities ← listItems (contractError (py "role list fields invalid")) capabilities
  let independentFrom ← listItems (contractError (py "role list fields invalid")) independentFrom
  let roleId ← entry fields (py "role_id")
  let executionDomain ← entry fields (py "execution_domain")
  return ⟨roleId, executionDomain, capabilities, independentFrom⟩

def readRoute (value : PyObject) : Except PyError (PyObject × PyObject) := do
  let fields ← exactDict routeFields (contractError (py "routing item fields are not canonical"))
    (contractError (py "routing item fields are not canonical")) value
  let transitionId ← entry fields (py "transition_id")
  let roleId ← entry fields (py "role_id")
  return (transitionId, roleId)

/-- What `from_mapping` constructs. -/
def readMission (value : PyObject) : Except PyError RawMission := do
  let fields ← exactDict missionFields (contractError (py "FleetMissionIR must be an object"))
    (contractError (py "FleetMissionIR keys are not canonical")) value
  let rawRoles ← entry fields (py "roles")
  let rawRoles ← listItems (contractError (py "roles must be an array")) rawRoles
  let roles ← rawRoles.mapM readRole
  let rawRouting ← entry fields (py "routing")
  let rawRouting ← listItems (contractError (py "routing must be an array")) rawRouting
  let routing ← rawRouting.mapM readRoute
  let schemaVersion ← entry fields (py "schema_version")
  let missionId ← entry fields (py "mission_id")
  let fleetClass ← entry fields (py "fleet_class")
  let authorityEffect ← entry fields (py "authority_effect")
  let runtimeEffect ← entry fields (py "runtime_effect")
  let effectProviderEffect ← entry fields (py "effect_provider_effect")
  return ⟨schemaVersion, missionId, fleetClass, roles, routing, authorityEffect, runtimeEffect,
    effectProviderEffect⟩

/-! ### Validating what was read -/

/-- `value == text`. -/
def isText (text : PyStr) : PyObject → Bool
  | .str value => value = text
  | _ => false

/-- `_identifier` on any value. -/
def identifierOf (name : PyStr) : PyObject → Except PyError PyStr
  | .str text => do
    FleetMission.identifier text name
    return text
  | _ => .error (contractError (name ++ py " has invalid identifier syntax"))

/-- `value not in <set of texts>`. -/
def choice {α : Type} (vocabulary : List (α × PyStr)) (error : PyError) (value : PyObject) :
    Except PyError α := do
  value.hash
  match value with
  | .str text =>
    match ofText vocabulary text with
    | some found => .ok found
    | none => .error error
  | _ => .error error

/-- `validate` of a role. -/
def RawRole.validate (raw : RawRole) : Except PyError FleetRoleSpec := do
  let roleId ← identifierOf (py "role_id") raw.roleId
  let executionDomain ← choice executionDomains (contractError (py "execution_domain invalid"))
    raw.executionDomain
  PyObject.requireDistinct raw.capabilities (contractError (py "capabilities must be unique"))
  PyObject.requireDistinct raw.independentFrom
    (contractError (py "independent_from must be unique"))
  let capabilities ← raw.capabilities.mapM (identifierOf (py "capability"))
  let independentFrom ← raw.independentFrom.mapM (identifierOf (py "independent_from"))
  raiseIf (roleId ∈ independentFrom)
    (contractError (py "role cannot be independent from itself"))
  return ⟨roleId, executionDomain, capabilities, independentFrom⟩

def validateRoute (roles : List FleetRoleSpec) (route : PyObject × PyObject) :
    Except PyError (PyStr × PyStr) := do
  let transitionId ← identifierOf (py "routing transition_id") route.1
  let roleId ← choice (roles.map fun role => (role.roleId, role.roleId))
    (contractError (py "routing references undeclared role")) route.2
  return (transitionId, roleId)

def RawMission.validate (raw : RawMission) : Except PyError FleetMissionIR := do
  raiseIf (isText (py "1.0.0") raw.schemaVersion = false)
    (contractError (py "schema_version mismatch"))
  let missionId ← identifierOf (py "mission_id") raw.missionId
  let fleetClass ← choice fleetClasses (contractError (py "fleet_class invalid")) raw.fleetClass
  raiseIf (raw.roles.isEmpty = true) (contractError (py "at least one role is required"))
  PyObject.requireDistinct (raw.roles.map RawRole.roleId)
    (contractError (py "role_id values must be unique"))
  let roles ← raw.roles.mapM RawRole.validate
  raiseIf (FleetMissionIR.domainsFit fleetClass (roles.map FleetRoleSpec.executionDomain) = false)
    (contractError (FleetMissionIR.domainsMessage fleetClass))
  raiseIf (raw.routing.isEmpty = true) (contractError (py "routing must not be empty"))
  PyObject.requireDistinct (raw.routing.map Prod.fst)
    (contractError (py "routing keys must be unique"))
  let routing ← raw.routing.mapM (validateRoute roles)
  raiseIf (fleetClass = .hybrid ∧
      FleetMissionIR.domainsFit .hybrid (FleetMissionIR.routedDomains roles routing) = false)
    (contractError (py "HYBRID routing must exercise LOGICAL and LOCAL domains"))
  raiseIf ([raw.authorityEffect, raw.runtimeEffect, raw.effectProviderEffect].all
      (isText (py "NONE")) = false)
    (contractError (py "fleet mission IR must remain non-authoritative and non-effectful"))
  raiseIf (¬ roles.all fun role =>
      role.independentFrom.all fun other => other ∈ roles.map FleetRoleSpec.roleId)
    (contractError (py "independent_from references undeclared role"))
  return ⟨py "1.0.0", missionId, fleetClass, roles, routing, py "NONE", py "NONE", py "NONE"⟩

def fromMapping (value : PyObject) : Except PyError FleetMissionIR := do
  let raw ← readMission value
  raw.validate

/-! ### Writing a mapping -/

/-- `asdict` of a role, which keeps its tuples. -/
def roleDict (role : FleetRoleSpec) : PyObject :=
  .dict [(py "role_id", .str role.roleId),
    (py "execution_domain", .str (toText executionDomains role.executionDomain)),
    (py "capabilities", .tuple (role.capabilities.map PyObject.str)),
    (py "independent_from", .tuple (role.independentFrom.map PyObject.str))]

def routeDict (route : PyStr × PyStr) : PyObject :=
  .dict [(py "transition_id", .str route.1), (py "role_id", .str route.2)]

/-- What `as_dict` returns. -/
def missionDict (fleet : FleetMissionIR) : PyObject :=
  .dict [(py "schema_version", .str fleet.schemaVersion), (py "mission_id", .str fleet.missionId),
    (py "fleet_class", .str (toText fleetClasses fleet.fleetClass)),
    (py "roles", .list (fleet.roles.map roleDict)),
    (py "routing", .list (fleet.routing.map routeDict)),
    (py "authority_effect", .str fleet.authorityEffect),
    (py "runtime_effect", .str fleet.runtimeEffect),
    (py "effect_provider_effect", .str fleet.effectProviderEffect)]

def asDict (fleet : FleetMissionIR) : Except PyError PyObject := do
  fleet.validate
  return missionDict fleet

def canonicalBytes (fleet : FleetMissionIR) : Except PyError Utf8Bytes := do
  let value ← asDict fleet
  let text ← Json.dumps false true value.toJson
  encodeUtf8 text

def digestDomain : Utf8Bytes :=
  ⟨py "LION/FLEET-MISSION-IR/1\x00", by decide⟩

def digest (fleet : FleetMissionIR) : Except PyError PyStr := do
  let bytes ← canonicalBytes fleet
  return sha256 (digestDomain.append bytes)

end FleetMission

end CyberLion
