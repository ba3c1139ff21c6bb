import CyberLion.EnterpriseModels

/-!
# The control plane

`ExecutionControlPlane` of `enterprise/control_plane.py`: a proposal is denied for the
first invariant that it violates, or it is allowed with the authority that it asks for.
-/

namespace CyberLion

open PyLib

structure ActionProposal where
  proposalId : PyStr
  missionId : PyStr
  swarmId : PyStr
  proposerAgentId : PyStr
  capability : PyStr
  requestedAuthority : PyStr
  actionClass : PyStr
  target : PyStr
  consequential : Bool
  evidenceRefs : List PyStr
  requiredObservability : List PyStr
  verifierAgentId : Option PyStr
  payloadDigest : Option PyStr
  deriving DecidableEq

def ActionProposal.validate (proposal : ActionProposal) : Except PyError Unit := do
  raiseIf (proposal.proposalId = [] ∨ proposal.missionId = [] ∨ proposal.swarmId = [] ∨
      proposal.proposerAgentId = [])
    (modelError (py "proposal identity/mission/swarm/proposer are required"))
  raiseIf (proposal.capability = [] ∨ proposal.actionClass = [] ∨ proposal.target = [])
    (modelError (py "proposal capability/action_class/target are required"))
  let _ ← authorityRank proposal.requestedAuthority
  raiseIf (proposal.consequential = true ∧ proposal.evidenceRefs = [])
    (modelError (py "consequential proposal requires evidence_refs"))
  raiseIf (proposal.consequential = true ∧ proposal.requiredObservability = [])
    (modelError (py "consequential proposal requires observability requirements"))

inductive GateVerdict
  | allow
  | deny
  deriving DecidableEq

def GateVerdict.text : GateVerdict → PyStr
  | allow => py "ALLOW"
  | deny => py "DENY"

structure GateDecision where
  gateEventId : PyStr
  proposalId : PyStr
  decision : GateVerdict
  effectiveAuthority : PyStr
  policyIds : List PyStr
  rationale : PyStr
  verifierAgentId : Option PyStr
  deriving DecidableEq

def GateDecision.validate (decision : GateDecision) : Except PyError Unit := do
  raiseIf (decision.gateEventId = [] ∨ decision.proposalId = [] ∨ decision.rationale = [])
    (modelError (py "gate identity/proposal/rationale are required"))
  let _ ← authorityRank decision.effectiveAuthority
  raiseIf (decision.decision = .allow ∧ decision.policyIds = [])
    (modelError (py "ALLOW requires policy_ids"))
  raiseIf (decision.decision = .deny ∧ decision.effectiveAuthority ≠ py "none")
    (modelError (py "DENY must have effective_authority=none"))

/-- What `evaluate` is given. -/
structure AdmissionInput where
  proposal : ActionProposal
  mission : MissionSpec
  swarm : SwarmSpec
  agents : PyStr → Option AgentSpec
  policyIds : List PyStr
  observedEventTypes : List PyStr
  gateEventId : PyStr

/-- An optional text that is neither `None` nor empty. -/
def isGivenText : Option PyStr → Bool
  | none => false
  | some text => text ≠ []

/-- `str(texts)` of a list, with the `repr` of a text. -/
def listRepr (strRepr : PyStr → PyStr) (texts : List PyStr) : PyStr :=
  py "[" ++ pyJoin (py ", ") (texts.map strRepr) ++ py "]"

namespace AdmissionInput

variable (input : AdmissionInput)

def ceilingDenial (requested : Nat) (proposer : AgentSpec) : Except PyError (Option PyStr) := do
  let agentCeiling ← authorityRank proposer.authorityCeiling
  if agentCeiling < requested then
    return some (py "proposal exceeds agent authority ceiling")
  else do
    let missionCeiling ← authorityRank input.mission.authorityCeiling
    if missionCeiling < requested then
      return some (py "proposal exceeds mission authority ceiling")
    else do
      let swarmCeiling ← authorityRank input.swarm.authorityCeiling
      if swarmCeiling < requested then
        return some (py "proposal exceeds swarm authority ceiling")
      else return none

def missingObservability : List PyStr :=
  pySorted (input.proposal.requiredObservability.dedup.filter (· ∉ input.observedEventTypes))

def verifierRequired (requested : Nat) : Bool :=
  input.proposal.consequential && (input.mission.riskClass = py "RED" ||
    AuthorityClass.externalWrite.rank ≤ requested || input.mission.requireIndependentVerifier)

def verifierDenial : Except PyError (Option PyStr) :=
  match input.proposal.verifierAgentId with
  | none => .ok (some (py "independent verifier required"))
  | some verifierId =>
    if verifierId = [] ∨ verifierId = input.proposal.proposerAgentId then
      .ok (some (py "independent verifier required"))
    else if verifierId ∉ input.swarm.verifierAgentIds then
      .ok (some (py "verifier is not admitted by SwarmSpec"))
    else match input.agents verifierId with
      | none => .ok (some (py "invalid verifier AgentSpec"))
      | some verifier => do
        verifier.validate
        if verifier.isVerifier = true then return none
        else return some (py "invalid verifier AgentSpec")

def evidenceDenial (strRepr : PyStr → PyStr) (requested : Nat) :
    Except PyError (Option PyStr) :=
  if input.missingObservability ≠ [] then
    .ok (some (py "observability preconditions missing: " ++
      listRepr strRepr input.missingObservability))
  else do
    let denied ← if input.verifierRequired requested = true then input.verifierDenial
      else .ok none
    if denied.isSome then return denied
    else if input.proposal.consequential = true ∧ input.policyIds = [] then
      return some (py "consequential ALLOW requires policy_ids")
    else return none

def proposerDenial (strRepr : PyStr → PyStr) (proposer : AgentSpec) :
    Except PyError (Option PyStr) := do
  proposer.validate
  if input.proposal.capability ∉ proposer.capabilities then
    return some (py "proposer lacks requested capability")
  else do
    let requested ← authorityRank input.proposal.requestedAuthority
    let exceeded ← input.ceilingDenial requested proposer
    if exceeded.isSome then return exceeded
    else input.evidenceDenial strRepr requested

def denial (strRepr : PyStr → PyStr) : Except PyError (Option PyStr) :=
  if input.proposal.missionId ≠ input.mission.missionId ∨
      input.proposal.swarmId ≠ input.swarm.swarmId then
    .ok (some (py "proposal mission/swarm binding mismatch"))
  else if input.proposal.proposerAgentId ∉ input.swarm.memberAgentIds then
    .ok (some (py "proposer is not a swarm member"))
  else match input.agents input.proposal.proposerAgentId with
    | none => .ok (some (py "proposer AgentSpec unavailable"))
    | some proposer => input.proposerDenial strRepr proposer

def decisionOf : Option PyStr → GateDecision
  | some rationale =>
    ⟨input.gateEventId, input.proposal.proposalId, .deny, py "none", [], rationale, none⟩
  | none =>
    ⟨input.gateEventId, input.proposal.proposalId, .allow, input.proposal.requestedAuthority,
      input.policyIds, py "all deterministic admission invariants satisfied",
      input.proposal.verifierAgentId⟩

def evaluate (strRepr : PyStr → PyStr) : Except PyError GateDecision := do
  input.proposal.validate
  input.mission.validate
  input.swarm.validate
  let denied ← input.denial strRepr
  (input.decisionOf denied).validate
  return input.decisionOf denied

end AdmissionInput

/-! ### What an admission says -/

/-- What the control plane has compared when it allows a proposal. -/
structure Ranked (input : AdmissionInput) (proposer : AgentSpec) : Prop where
  found : input.agents input.proposal.proposerAgentId = some proposer
  agent : ∃ upper lower, authorityRank proposer.authorityCeiling = .ok upper ∧
    authorityRank input.proposal.requestedAuthority = .ok lower ∧ lower ≤ upper
  mission : ∃ upper lower, authorityRank input.mission.authorityCeiling = .ok upper ∧
    authorityRank input.proposal.requestedAuthority = .ok lower ∧ lower ≤ upper
  swarm : ∃ upper lower, authorityRank input.swarm.authorityCeiling = .ok upper ∧
    authorityRank input.proposal.requestedAuthority = .ok lower ∧ lower ≤ upper

variable {input : AdmissionInput} {strRepr : PyStr → PyStr}

theorem AdmissionInput.ceilingDenial_eq_none {requested : Nat} {proposer : AgentSpec}
    (passed : input.ceilingDenial requested proposer = .ok none) :
    ∃ agentCeiling missionCeiling swarmCeiling,
      authorityRank proposer.authorityCeiling = .ok agentCeiling ∧ requested ≤ agentCeiling ∧
      authorityRank input.mission.authorityCeiling = .ok missionCeiling ∧
      requested ≤ missionCeiling ∧
      authorityRank input.swarm.authorityCeiling = .ok swarmCeiling ∧
      requested ≤ swarmCeiling := by
  simp only [ceilingDenial, bind_eq_ok] at passed
  obtain ⟨agentCeiling, isAgent, passed⟩ := passed
  split at passed
  · simp at passed
  · rename_i agentLe
    simp only [bind_eq_ok] at passed
    obtain ⟨missionCeiling, isMission, passed⟩ := passed
    split at passed
    · simp at passed
    · rename_i missionLe
      simp only [bind_eq_ok] at passed
      obtain ⟨swarmCeiling, isSwarm, passed⟩ := passed
      split at passed
      · simp at passed
      · rename_i swarmLe
        exact ⟨agentCeiling, missionCeiling, swarmCeiling, isAgent, not_lt.mp agentLe, isMission,
          not_lt.mp missionLe, isSwarm, not_lt.mp swarmLe⟩

theorem ranked_of_denial (passed : input.denial strRepr = .ok none) :
    ∃ proposer, Ranked input proposer := by
  unfold AdmissionInput.denial at passed
  split at passed
  · simp at passed
  · split at passed
    · simp at passed
    · split at passed
      · simp at passed
      · rename_i proposer found
        simp only [AdmissionInput.proposerDenial, bind_eq_ok] at passed
        obtain ⟨_, -, passed⟩ := passed
        split at passed
        · simp at passed
        · simp only [bind_eq_ok] at passed
          obtain ⟨requested, isRequested, exceeded, isExceeded, passed⟩ := passed
          split at passed
          · rename_i some
            obtain rfl := Except.ok.inj passed
            exact absurd some (by simp)
          · rename_i notSome
            rw [Bool.not_eq_true, Option.isSome_eq_false_iff, Option.isNone_iff_eq_none] at notSome
            subst notSome
            obtain ⟨agentCeiling, missionCeiling, swarmCeiling, isAgent, agentLe, isMission,
              missionLe, isSwarm, swarmLe⟩ := AdmissionInput.ceilingDenial_eq_none isExceeded
            exact ⟨proposer, found, ⟨agentCeiling, requested, isAgent, isRequested, agentLe⟩,
              ⟨missionCeiling, requested, isMission, isRequested, missionLe⟩,
              ⟨swarmCeiling, requested, isSwarm, isRequested, swarmLe⟩⟩

theorem evaluate_allow {decision : GateDecision}
    (returned : input.evaluate strRepr = .ok decision) (isAllow : decision.decision = .allow) :
    decision.effectiveAuthority = input.proposal.requestedAuthority ∧
      ∃ proposer, Ranked input proposer := by
  simp only [AdmissionInput.evaluate, bind_eq_ok, pure_eq_ok] at returned
  obtain ⟨_, -, _, -, _, -, denied, isDenied, _, -, rfl⟩ := returned
  cases denied with
  | some rationale => exact absurd isAllow (by simp [AdmissionInput.decisionOf])
  | none => exact ⟨rfl, ranked_of_denial isDenied⟩

end CyberLion
