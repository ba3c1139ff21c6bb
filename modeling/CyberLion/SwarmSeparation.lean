import CyberLion.SwarmPlans

/-!
# Separation of duties in a planned swarm

The control plane wants the verifier of a proposal to be another agent than its proposer.  The
planner only asks for a verifier, and one that covers capabilities may be the only one: then the
swarm can act for a capability of this verifier only when another member has it too.
-/

namespace CyberLion

namespace SwarmPlanner

open PyLib
open AgentRegistry (Projection RegisteredSpec SpecTuples validSpec)

variable {runtime : PlannerRuntime} {mission : MissionSpec}

/-! ### The greedy cover -/

def uncoveredBy (mission : MissionSpec) (chosen : List AgentSpec) : List PyStr :=
  mission.requiredCapabilities.filter fun capability =>
    ∀ agent ∈ chosen, capability ∉ agent.capabilities

def IsGreedy (runtime : PlannerRuntime) (mission : MissionSpec) (valid chosen : List AgentSpec) :
    Prop :=
  ∀ before agent after, chosen = before ++ agent :: after →
    best runtime mission valid (uncoveredBy mission before) before = some agent

variable {chosen valid : List AgentSpec}

theorem IsGreedy.append {agent : AgentSpec} (greedy : IsGreedy runtime mission valid chosen)
    (isBest : best runtime mission valid (uncoveredBy mission chosen) chosen = some agent) :
    IsGreedy runtime mission valid (chosen ++ [agent]) := by
  intro before other after same
  rcases List.eq_nil_or_concat after with rfl | ⟨rest, last, rfl⟩
  · obtain ⟨rfl, sameAgent⟩ := List.append_inj' same rfl
    rw [isBest, (List.cons.inj sameAgent).1]
  · rw [List.concat_eq_append, ← List.cons_append, ← List.append_assoc] at same
    exact greedy before other rest (List.append_inj' same rfl).1

end SwarmPlanner

end CyberLion
