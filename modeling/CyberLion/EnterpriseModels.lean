import CyberLion.AuthorityAttenuation
import Mathlib.Data.Rat.Defs

/-!
# Agents, missions and swarms

`enterprise/models.py`: the specifications that the control plane reads, with their
checks.  A cost and a quorum are floating point numbers that are only compared, so a
finite one is kept as the rational number that it is.
-/

namespace PyLib

inductive PyFloat
  | finite (value : Rat)
  | infinite (negative : Bool)
  | nan
  deriving DecidableEq

namespace PyFloat

/-- `first <= second`: no comparison with a NaN holds. -/
def le : PyFloat → PyFloat → Bool
  | nan, _ => false
  | _, nan => false
  | infinite true, _ => true
  | _, infinite false => true
  | finite first, finite second => first ≤ second
  | _, _ => false

/-- `first < second`. -/
def lt (first second : PyFloat) : Bool :=
  first.le second && !second.le first

end PyFloat

end PyLib

namespace CyberLion

open PyLib

/-- `EnterpriseModelError(message)`. -/
def modelError (message : PyStr) : PyError :=
  ⟨enterpriseModelErrorClass, message⟩

def riskClasses : List PyStr :=
  [py "GREEN", py "AMBER", py "RED"]

def validRiskClass (riskClass : PyStr) : Except PyError Unit :=
  raiseIf (riskClass ∉ riskClasses) (modelError (py "invalid risk_class: " ++ riskClass))

def validQuorum (quorum : PyFloat) : Except PyError Unit :=
  raiseIf (¬ ((PyFloat.finite 0).le quorum && quorum.le (.finite 1)) = true)
    (modelError (py "observability_quorum must be in [0,1]"))

structure AgentSpec where
  agentId : PyStr
  version : PyStr
  role : PyStr
  mission : PyStr
  capabilities : List PyStr
  authorityCeiling : PyStr
  executionDomain : PyStr
  observabilityEvents : List PyStr
  memoryRead : Bool
  memoryWrite : Bool
  memoryPolicyIds : List PyStr
  maxRuntimeSeconds : Int
  maxCostUnits : PyFloat
  riskClass : PyStr
  providerClass : PyStr
  isVerifier : Bool
  processProfile : Option PyStr
  deriving DecidableEq

def AgentSpec.validate (agent : AgentSpec) : Except PyError Unit := do
  raiseIf (agent.agentId = [] ∨ agent.version = [] ∨ agent.role = [] ∨ agent.mission = [])
    (modelError (py "agent identity/version/role/mission are required"))
  raiseIf (agent.capabilities = [] ∨ [] ∈ agent.capabilities)
    (modelError (py "agent must declare at least one capability"))
  raiseIf (¬ agent.capabilities.Nodup) (modelError (py "agent capabilities must be unique"))
  let ceiling ← authorityRank agent.authorityCeiling
  validRiskClass agent.riskClass
  raiseIf (agent.maxRuntimeSeconds ≤ 0 ∨ agent.maxCostUnits.lt (.finite 0) = true)
    (modelError (py "runtime must be positive and cost budget non-negative"))
  raiseIf (agent.memoryWrite = true ∧ agent.memoryPolicyIds = [])
    (modelError (py "memory_write requires explicit memory_policy_ids"))
  raiseIf (AuthorityClass.read.rank < ceiling ∧ agent.observabilityEvents = [])
    (modelError (py "consequential agent authority requires observability events"))

structure MissionSpec where
  missionId : PyStr
  purpose : PyStr
  requiredCapabilities : List PyStr
  authorityCeiling : PyStr
  riskClass : PyStr
  maxAgents : Int
  observabilityQuorum : PyFloat
  requireIndependentVerifier : Bool
  maxTotalCostUnits : PyFloat
  deriving DecidableEq

def MissionSpec.validate (mission : MissionSpec) : Except PyError Unit := do
  raiseIf (mission.missionId = [] ∨ mission.purpose = [])
    (modelError (py "mission_id and purpose are required"))
  raiseIf (mission.requiredCapabilities = [] ∨ [] ∈ mission.requiredCapabilities)
    (modelError (py "mission requires at least one capability"))
  raiseIf (¬ mission.requiredCapabilities.Nodup)
    (modelError (py "required capabilities must be unique"))
  let _ ← authorityRank mission.authorityCeiling
  validRiskClass mission.riskClass
  raiseIf (mission.maxAgents ≤ 0) (modelError (py "max_agents must be positive"))
  validQuorum mission.observabilityQuorum
  raiseIf (mission.maxTotalCostUnits.lt (.finite 0) = true)
    (modelError (py "max_total_cost_units must be non-negative"))

structure SwarmSpec where
  swarmId : PyStr
  missionId : PyStr
  memberAgentIds : List PyStr
  coveredCapabilities : List PyStr
  topology : PyStr
  authorityCeiling : PyStr
  riskClass : PyStr
  observabilityQuorum : PyFloat
  verifierAgentIds : List PyStr
  estimatedCostUnits : PyFloat
  deriving DecidableEq

def SwarmSpec.validate (swarm : SwarmSpec) : Except PyError Unit := do
  raiseIf (swarm.swarmId = [] ∨ swarm.missionId = [] ∨ swarm.memberAgentIds = [])
    (modelError (py "swarm identity/mission/members are required"))
  raiseIf (¬ swarm.memberAgentIds.Nodup) (modelError (py "swarm member IDs must be unique"))
  let _ ← authorityRank swarm.authorityCeiling
  validRiskClass swarm.riskClass
  validQuorum swarm.observabilityQuorum
  raiseIf (swarm.estimatedCostUnits.lt (.finite 0) = true)
    (modelError (py "estimated_cost_units must be non-negative"))
  raiseIf (swarm.riskClass = py "RED" ∧ swarm.verifierAgentIds = [])
    (modelError (py "RED swarm requires an independent verifier"))

/-! ### Two orders on the authority classes -/

namespace AuthorityClass

def Crosses (first second : AuthorityClass) : Prop :=
  first = financial ∧ second = deploy ∨ first = deploy ∧ second = financial

instance (first second : AuthorityClass) : Decidable (first.Crosses second) :=
  inferInstanceAs (Decidable (_ ∨ _))

theorem rank_le_iff {lower upper : AuthorityClass} :
    lower.rank ≤ upper.rank ↔ lower ∈ upper.contains ∨ lower.Crosses upper := by
  cases lower <;> cases upper <;> decide

theorem not_crosses_of_mem {lower upper : AuthorityClass} (inside : lower ∈ upper.contains) :
    ¬ lower.Crosses upper := by
  rintro (⟨rfl, rfl⟩ | ⟨rfl, rfl⟩) <;> exact absurd inside (by decide)

end AuthorityClass

def ContainedIn (parent child : PyStr) : Prop :=
  ∃ upper lower, AuthorityClass.ofText parent = some upper ∧
    AuthorityClass.ofText child = some lower ∧ lower ∈ upper.contains

def CrossesText (first second : PyStr) : Prop :=
  ∃ lower upper, AuthorityClass.ofText first = some lower ∧
    AuthorityClass.ofText second = some upper ∧ lower.Crosses upper

theorem authorityRank_eq_ok {value : PyStr} {rank : Nat} :
    authorityRank value = .ok rank ↔
      ∃ cls, AuthorityClass.ofText value = some cls ∧ cls.rank = rank := by
  unfold authorityRank
  cases AuthorityClass.ofText value <;> simp

theorem containedIn_iff_of_rank {parent child : PyStr} {upper lower : Nat}
    (upperRank : authorityRank parent = .ok upper) (lowerRank : authorityRank child = .ok lower)
    (le : lower ≤ upper) : ContainedIn parent child ↔ ¬ CrossesText child parent := by
  obtain ⟨upperClass, isUpper, rfl⟩ := authorityRank_eq_ok.mp upperRank
  obtain ⟨lowerClass, isLower, rfl⟩ := authorityRank_eq_ok.mp lowerRank
  constructor
  · rintro ⟨first, second, isFirst, isSecond, inside⟩ ⟨third, fourth, isThird, isFourth, crosses⟩
    obtain rfl := Option.some.inj (isSecond.symm.trans isThird)
    obtain rfl := Option.some.inj (isFirst.symm.trans isFourth)
    exact AuthorityClass.not_crosses_of_mem inside crosses
  · intro apart
    rcases AuthorityClass.rank_le_iff.mp le with inside | crosses
    · exact ⟨upperClass, lowerClass, isUpper, isLower, inside⟩
    · exact absurd ⟨lowerClass, upperClass, isLower, isUpper, crosses⟩ apart

end CyberLion
