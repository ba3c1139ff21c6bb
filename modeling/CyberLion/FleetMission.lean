import CyberLion.ProcessIR

/-!
# The fleet mission of a process

`FleetRoleSpec` and `FleetMissionIR` of `process_language/fleet_mission.py` with
their validators.
-/

namespace CyberLion

open PyLib ProcessIR

namespace FleetMission

/-- `class FleetMissionContractError(ValueError)`. -/
def contractErrorClass : ErrorClass :=
  .declared .valueError (py "FleetMissionContractError")

def contractError (text : PyStr) : PyError :=
  ⟨contractErrorClass, text⟩

inductive FleetClass
  | logical | localFleet | hybrid
  deriving DecidableEq

inductive ExecutionDomain
  | logical | localDomain
  deriving DecidableEq

def fleetClasses : List (FleetClass × PyStr) :=
  [(.logical, py "LOGICAL"), (.localFleet, py "LOCAL"), (.hybrid, py "HYBRID")]

def identifier (value name : PyStr) : Except PyError Unit :=
  raiseIf (isIdentifier value = false)
    (contractError (name ++ py " has invalid identifier syntax"))

end FleetMission

open FleetMission

structure FleetRoleSpec where
  roleId : PyStr
  executionDomain : ExecutionDomain
  capabilities : List PyStr
  independentFrom : List PyStr
  deriving DecidableEq

namespace FleetRoleSpec

def validate (role : FleetRoleSpec) : Except PyError Unit := do
  FleetMission.identifier role.roleId (py "role_id")
  raiseIf (¬ role.capabilities.Nodup) (FleetMission.contractError (py "capabilities must be unique"))
  raiseIf (¬ role.independentFrom.Nodup)
    (FleetMission.contractError (py "independent_from must be unique"))
  role.capabilities.forM fun item => FleetMission.identifier item (py "capability")
  role.independentFrom.forM fun item => FleetMission.identifier item (py "independent_from")
  raiseIf (role.roleId ∈ role.independentFrom)
    (FleetMission.contractError (py "role cannot be independent from itself"))

end FleetRoleSpec

structure FleetMissionIR where
  schemaVersion : PyStr
  missionId : PyStr
  fleetClass : FleetClass
  roles : List FleetRoleSpec
  routing : List (PyStr × PyStr)
  authorityEffect : PyStr
  runtimeEffect : PyStr
  effectProviderEffect : PyStr
  deriving DecidableEq

namespace FleetMissionIR

def domainsFit (fleetClass : FleetClass) (domains : List ExecutionDomain) : Bool :=
  match fleetClass with
  | .logical => domains.all (· = .logical) && !domains.isEmpty
  | .localFleet => domains.all (· = .localDomain) && !domains.isEmpty
  | .hybrid => domains.contains .logical && domains.contains .localDomain

def domainsMessage : FleetClass → PyStr
  | .logical => py "LOGICAL fleet may contain only LOGICAL roles"
  | .localFleet => py "LOCAL fleet may contain only LOCAL roles"
  | .hybrid => py "HYBRID fleet requires LOGICAL and LOCAL roles"

def checkRouting (roles : List FleetRoleSpec) (routing : List (PyStr × PyStr)) :
    Except PyError Unit :=
  routing.forM fun route => do
    FleetMission.identifier route.1 (py "routing transition_id")
    raiseIf (route.2 ∉ roles.map FleetRoleSpec.roleId)
      (FleetMission.contractError (py "routing references undeclared role"))

def routedDomains (roles : List FleetRoleSpec) (routing : List (PyStr × PyStr)) :
    List ExecutionDomain :=
  routing.filterMap fun route =>
    (roles.find? fun role => role.roleId = route.2).map FleetRoleSpec.executionDomain

def validate (fleet : FleetMissionIR) : Except PyError Unit := do
  raiseIf (fleet.schemaVersion ≠ py "1.0.0")
    (FleetMission.contractError (py "schema_version mismatch"))
  FleetMission.identifier fleet.missionId (py "mission_id")
  raiseIf (fleet.roles = []) (FleetMission.contractError (py "at least one role is required"))
  raiseIf (¬ (fleet.roles.map FleetRoleSpec.roleId).Nodup)
    (FleetMission.contractError (py "role_id values must be unique"))
  fleet.roles.forM FleetRoleSpec.validate
  raiseIf (domainsFit fleet.fleetClass (fleet.roles.map FleetRoleSpec.executionDomain) = false)
    (FleetMission.contractError (domainsMessage fleet.fleetClass))
  raiseIf (fleet.routing = []) (FleetMission.contractError (py "routing must not be empty"))
  raiseIf (¬ (fleet.routing.map Prod.fst).Nodup)
    (FleetMission.contractError (py "routing keys must be unique"))
  checkRouting fleet.roles fleet.routing
  raiseIf (fleet.fleetClass = .hybrid ∧
      domainsFit .hybrid (routedDomains fleet.roles fleet.routing) = false)
    (FleetMission.contractError (py "HYBRID routing must exercise LOGICAL and LOCAL domains"))
  raiseIf ([fleet.authorityEffect, fleet.runtimeEffect, fleet.effectProviderEffect] ≠
      [py "NONE", py "NONE", py "NONE"])
    (FleetMission.contractError
      (py "fleet mission IR must remain non-authoritative and non-effectful"))
  raiseIf (¬ fleet.roles.all fun role =>
      role.independentFrom.all fun other => other ∈ fleet.roles.map FleetRoleSpec.roleId)
    (FleetMission.contractError (py "independent_from references undeclared role"))

end FleetMissionIR

end CyberLion
