import CyberLion.ControlPlane
import CyberLion.RegistryProjection
import Mathlib.Algebra.Order.Ring.Rat
import Mathlib.Data.Prod.Lex

/-!
# The swarm planner

`SwarmPlanner` of `enterprise/planner.py`: agents are selected for the capabilities that are not
covered yet, the one that covers most first, then a verifier when the mission needs one and none
was selected; the budgets are checked at the end.
-/

namespace CyberLion

open PyLib

structure PlanKey where
  covered : Nat
  authority : Nat
  cost : PyFloat
  grade : Nat
  agentId : PyStr

/-- `first < second` for two tuples that hold no NaN.  The first component is negated. -/
def PlanKey.before (first second : PlanKey) : Bool :=
  second.covered < first.covered || (first.covered = second.covered &&
    (first.authority < second.authority || (first.authority = second.authority &&
      (first.cost.lt second.cost || (first.cost = second.cost &&
        (first.grade < second.grade || (first.grade = second.grade &&
          first.agentId < second.agentId)))))))

/-- What the planner takes from Python: `sorted` by a key, whose order is left open when a key
holds a NaN, `sum` of floats, whose rounding differs between versions, and two formats. -/
structure PlannerRuntime where
  sorted : (AgentSpec → PlanKey) → List AgentSpec → List AgentSpec
  sum : List PyFloat → PyFloat
  strRepr : PyStr → PyStr
  threePlaces : PyFloat → PyStr
  perm_sorted : ∀ key agents, (sorted key agents).Perm agents
  pairwise_sorted : ∀ key agents, (∀ agent ∈ agents, (key agent).cost ≠ .nan) →
    (sorted key agents).Pairwise fun first second => (key second).before (key first) = false

/-! ### A runtime -/

def costOrder : PyFloat → Nat ×ₗ Rat
  | .infinite true => toLex (0, 0)
  | .finite value => toLex (1, value)
  | .infinite false => toLex (2, 0)
  | .nan => toLex (3, 0)

def PlanKey.order (key : PlanKey) : Int ×ₗ Nat ×ₗ (Nat ×ₗ Rat) ×ₗ Nat ×ₗ PyStr :=
  toLex (-(key.covered : Int), toLex (key.authority, toLex (costOrder key.cost,
    toLex (key.grade, key.agentId))))

theorem costOrder_lt_iff {first second : PyFloat} (number : second ≠ .nan) :
    costOrder first < costOrder second ↔ first.lt second = true := by
  cases first with
  | nan =>
    cases second with
    | nan => exact absurd rfl number
    | finite y => simp [costOrder, PyFloat.lt, PyFloat.le, Prod.Lex.toLex_lt_toLex]
    | infinite negative =>
      cases negative <;> simp [costOrder, PyFloat.lt, PyFloat.le, Prod.Lex.toLex_lt_toLex]
  | finite x =>
    cases second with
    | nan => exact absurd rfl number
    | finite y => simpa [costOrder, PyFloat.lt, PyFloat.le, Prod.Lex.toLex_lt_toLex] using le_of_lt
    | infinite negative =>
      cases negative <;> simp [costOrder, PyFloat.lt, PyFloat.le, Prod.Lex.toLex_lt_toLex]
  | infinite firstNegative =>
    cases second with
    | nan => exact absurd rfl number
    | finite y =>
      cases firstNegative <;>
        simp [costOrder, PyFloat.lt, PyFloat.le, Prod.Lex.toLex_lt_toLex]
    | infinite secondNegative =>
      cases firstNegative <;> cases secondNegative <;>
        simp [costOrder, PyFloat.lt, PyFloat.le, Prod.Lex.toLex_lt_toLex]

theorem costOrder_injective : Function.Injective costOrder := by
  intro first second same
  cases first with
  | nan => cases second with
    | nan => rfl
    | finite y => simp [costOrder] at same
    | infinite negative => cases negative <;> simp [costOrder] at same
  | finite x => cases second with
    | nan => simp [costOrder] at same
    | finite y => simpa [costOrder] using same
    | infinite negative => cases negative <;> simp [costOrder] at same
  | infinite firstNegative => cases second with
    | nan => cases firstNegative <;> simp [costOrder] at same
    | finite y => cases firstNegative <;> simp [costOrder] at same
    | infinite secondNegative =>
      cases firstNegative <;> cases secondNegative <;> simp [costOrder] at same ⊢

theorem PlanKey.order_lt_iff {first second : PlanKey} (number : second.cost ≠ .nan) :
    first.order < second.order ↔ first.before second = true := by
  simp only [before, order, Prod.Lex.toLex_lt_toLex, Bool.or_eq_true, Bool.and_eq_true,
    decide_eq_true_eq, costOrder_lt_iff number, costOrder_injective.eq_iff, neg_inj,
    Nat.cast_inj, neg_lt_neg_iff, Nat.cast_lt]

/-- A runtime that sorts by insertion and adds from left to right. -/
def PlannerRuntime.leftToRight : PlannerRuntime where
  sorted key agents := agents.insertionSort fun first second =>
    (key second).before (key first) = false
  sum := PyFloat.sum
  strRepr text := py "'" ++ text ++ py "'"
  threePlaces _ := py "0.000"
  perm_sorted _ _ := List.perm_insertionSort _ _
  pairwise_sorted key agents numbers := by
    let le : AgentSpec → AgentSpec → Prop := fun first second =>
      (key first).order ≤ (key second).order
    have : Std.Total le := ⟨fun _ _ => le_total _ _⟩
    have : IsTrans AgentSpec le := ⟨fun _ _ _ => le_trans⟩
    have agree : ∀ first ∈ agents, ∀ second ∈ agents,
        (key second).before (key first) = false ↔ le first second := by
      intro first isFirst second _
      rw [← Bool.not_eq_true, ← PlanKey.order_lt_iff (numbers first isFirst), not_lt]
    have same := List.map_insertionSort _ le id agents agree
    rw [List.map_id, List.map_id] at same
    rw [same]
    refine (List.pairwise_insertionSort le agents).imp_of_mem fun isFirst isSecond ordered => ?_
    exact (agree _ ((List.mem_insertionSort le).mp isFirst) _
      ((List.mem_insertionSort le).mp isSecond)).mpr ordered

namespace SwarmPlanner

open AgentRegistry (Projection RegisteredSpec SpecTuples validSpec typeError)

def observable (agent : AgentSpec) : Bool :=
  agent.observabilityEvents ≠ [] || rankOf agent.authorityCeiling ≤ AuthorityClass.read.rank

def effectiveAgentAuthority (agent : AgentSpec) (mission : MissionSpec) : Nat :=
  min (rankOf agent.authorityCeiling) (rankOf mission.authorityCeiling)

/-- One round of the loop of `_agents`. -/
def readCandidate : Json → Except PyError AgentSpec
  | .obj fields => do
    let tuples ← SpecTuples.read fields
    let spec ← rethrow
      (fun error => error.cls.isSubclass .typeError || error.cls.isSubclass .valueError)
      (fun _ => modelError (py "registry projection contains invalid AgentSpec"))
      (validSpec fields tuples)
    return spec.agent
  | _ => .error (typeError (py "object is not iterable"))

def agents (projection : Projection) (mission : MissionSpec) :
    Except PyError (List AgentSpec) := do
  projection.verifyDigest
  raiseIf (projection.missionId ≠ mission.missionId ∨
      projection.requiredCapabilities ≠ mission.requiredCapabilities)
    (modelError (py "registry projection mission binding mismatch"))
  projection.candidateSpecs.mapM readCandidate

/-! ### Coverage -/

section Coverage

variable (runtime : PlannerRuntime) (mission : MissionSpec)

/-- `uncovered&set(a.capabilities)`. -/
def gain (uncovered : List PyStr) (agent : AgentSpec) : List PyStr :=
  uncovered.filter fun capability => capability ∈ agent.capabilities

def coverKey (uncovered : List PyStr) (agent : AgentSpec) : PlanKey :=
  ⟨(gain uncovered agent).length, effectiveAgentAuthority agent mission, agent.maxCostUnits,
    if agent.isVerifier then 0 else 1, agent.agentId⟩

def candidates (valid : List AgentSpec) (uncovered : List PyStr) (selected : List AgentSpec) :
    List AgentSpec :=
  valid.filter fun agent => agent ∉ selected ∧ gain uncovered agent ≠ []

/-- `sorted(candidates,key=...)[0]`, when there is a candidate. -/
def best (valid : List AgentSpec) (uncovered : List PyStr) (selected : List AgentSpec) :
    Option AgentSpec :=
  (runtime.sorted (coverKey mission uncovered) (candidates valid uncovered selected)).head?

def remaining (uncovered : List PyStr) (agent : AgentSpec) : List PyStr :=
  uncovered.filter fun capability => capability ∉ agent.capabilities

variable {runtime mission}

theorem mem_candidates_of_best {valid selected : List AgentSpec} {uncovered : List PyStr}
    {agent : AgentSpec} (isBest : best runtime mission valid uncovered selected = some agent) :
    agent ∈ valid ∧ agent ∉ selected ∧ gain uncovered agent ≠ [] := by
  have member := (runtime.perm_sorted _ _).mem_iff.mp (List.mem_of_head? isBest)
  simpa [candidates] using member

theorem length_remaining_lt {valid selected : List AgentSpec} {uncovered : List PyStr}
    {agent : AgentSpec} (isBest : best runtime mission valid uncovered selected = some agent) :
    (remaining uncovered agent).length < uncovered.length := by
  obtain ⟨capability, gained⟩ := List.exists_mem_of_ne_nil _ (mem_candidates_of_best isBest).2.2
  obtain ⟨member, has⟩ := List.mem_filter.mp gained
  refine List.length_filter_lt_length_iff_exists.mpr ⟨capability, member, ?_⟩
  simpa using has

variable (runtime mission)

def coverAll (valid : List AgentSpec) (uncovered : List PyStr) (selected : List AgentSpec) :
    Except PyError (List AgentSpec) :=
  if uncovered = [] then .ok selected
  else
    match _isBest : best runtime mission valid uncovered selected with
    | none => .error (modelError (py "cannot cover capabilities: " ++
        listRepr runtime.strRepr (pySorted uncovered)))
    | some agent =>
      if mission.maxAgents < ((selected ++ [agent]).length : Int) then
        .error (modelError (py "mission capability coverage exceeds max_agents"))
      else coverAll valid (remaining uncovered agent) (selected ++ [agent])
termination_by uncovered.length
decreasing_by exact length_remaining_lt ‹_›

end Coverage

/-! ### The verifier -/

/-- `need`. -/
def needsVerifier (mission : MissionSpec) : Bool :=
  mission.requireIndependentVerifier || mission.riskClass = py "RED" ||
    AuthorityClass.externalWrite.rank ≤ rankOf mission.authorityCeiling

def verifierKey (mission : MissionSpec) (agent : AgentSpec) : PlanKey :=
  ⟨0, effectiveAgentAuthority agent mission, agent.maxCostUnits, 0, agent.agentId⟩

/-- `vs`. -/
def verifiers (valid selected : List AgentSpec) : List AgentSpec :=
  valid.filter fun agent => agent.isVerifier ∧ agent ∉ selected ∧ observable agent

def withVerifier (runtime : PlannerRuntime) (mission : MissionSpec)
    (valid selected : List AgentSpec) : Except PyError (List AgentSpec) :=
  if needsVerifier mission = true ∧ selected.filter AgentSpec.isVerifier = [] then
    match (runtime.sorted (verifierKey mission) (verifiers valid selected)).head? with
    | none => .error (modelError (py "mission requires an independent verifier AgentSpec"))
    | some agent => .ok (selected ++ [agent])
  else .ok selected

/-! ### The swarm -/

def topology (mission : MissionSpec) (agents : List AgentSpec) (hasVerifier : Bool) : PyStr :=
  if mission.riskClass = py "RED" then py "segmented_peer_review"
  else if hasVerifier = true ∨ mission.riskClass = py "AMBER" then py "hub_spoke_with_verifier"
  else if agents.length ≤ 2 then py "direct_cell"
  else py "capability_mosaic"

def verifierIds (selected : List AgentSpec) : List PyStr :=
  (selected.filter AgentSpec.isVerifier).map AgentSpec.agentId

def coverage (selected : List AgentSpec) : PyFloat :=
  PyFloat.quotient (selected.countP observable) selected.length

def swarmOf (mission : MissionSpec) (selected : List AgentSpec) (cost : PyFloat) : SwarmSpec :=
  ⟨py "swarm:" ++ mission.missionId, mission.missionId, selected.map AgentSpec.agentId,
    pySorted (mission.requiredCapabilities.filter fun capability =>
      ∃ agent ∈ selected, capability ∈ agent.capabilities),
    topology mission selected (verifierIds selected ≠ []), mission.authorityCeiling,
    mission.riskClass, mission.observabilityQuorum, pySorted (verifierIds selected), cost⟩

def admitMembers (runtime : PlannerRuntime) (mission : MissionSpec)
    (selected : List AgentSpec) : Except PyError SwarmSpec := do
  raiseIf (mission.maxAgents < (selected.length : Int))
    (modelError (py "required verifier would exceed max_agents"))
  let cost := runtime.sum (selected.map AgentSpec.maxCostUnits)
  raiseIf (mission.maxTotalCostUnits.lt cost = true)
    (modelError (py "swarm cost " ++ runtime.threePlaces cost ++ py " exceeds mission budget " ++
      runtime.threePlaces mission.maxTotalCostUnits))
  raiseIf ((coverage selected).lt mission.observabilityQuorum = true)
    (modelError (py "observability coverage " ++ runtime.threePlaces (coverage selected) ++
      py " below quorum " ++ runtime.threePlaces mission.observabilityQuorum))
  (swarmOf mission selected cost).validate
  return swarmOf mission selected cost

def missing (mission : MissionSpec) (valid : List AgentSpec) : List PyStr :=
  pySorted (mission.requiredCapabilities.filter fun capability =>
    ∀ agent ∈ valid, capability ∉ agent.capabilities)

/-- The agents that `plan` selects among valid ones. -/
def select (runtime : PlannerRuntime) (mission : MissionSpec) (valid : List AgentSpec) :
    Except PyError (List AgentSpec) := do
  raiseIf (valid = []) (modelError (py "no canonical AgentSpecs available"))
  raiseIf (missing mission valid ≠ []) (modelError (py "uncovered mission capabilities: " ++
    listRepr runtime.strRepr (missing mission valid)))
  let covering ← coverAll runtime mission valid mission.requiredCapabilities []
  withVerifier runtime mission valid covering

def plan (runtime : PlannerRuntime) (mission : MissionSpec) (projection : Projection) :
    Except PyError SwarmSpec := do
  mission.validate
  let valid ← agents projection mission
  let selected ← select runtime mission valid
  admitMembers runtime mission selected

end SwarmPlanner

end CyberLion
